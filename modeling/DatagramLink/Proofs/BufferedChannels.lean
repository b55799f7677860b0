import DatagramLink.Channel.Buffered
import DatagramLink.Proofs.ChannelInvariant

/-!
# The buffers of a channel between calls

A `Channel` is what a channel with buffers amounts to as long as nothing is left over in
them.  `Channel.buffered` writes it out with clear buffers, and every call does the same to
both.  For that each way out of a call has to clear the flag, the place and the buffers that
it is done with: a byte left behind would be a state that no `Channel` writes out.

Whatever is called and whatever arrives, the fields of a channel with buffers therefore
agree with each other, and they keep the bounds of `Channel.Sound`.
-/

namespace DatagramLink

namespace Outgoing

/-- The message whose fragments are unsent. -/
def buffer (o : Outgoing) : ByteArray :=
  match o.unsent with
  | none => ByteArray.empty
  | some u => u.message

/-- Where the next unsent fragment starts. -/
def start (o : Outgoing) : Nat :=
  match o.unsent with
  | none => 0
  | some u => u.start

end Outgoing

/-- Whether a message is being put together, without its bytes. -/
def Assembly.reassembly : Assembly → Reassembly
  | .idle => .idle
  | .gathering sequence _ => .fragments sequence

namespace Channel

/-- The channel with its messages in buffers. -/
def buffered (c : Channel) : BufferedChannel where
  side := c.side
  remote := c.remote
  qport := c.qport
  outgoingSequence := c.outgoing.sequence
  incomingSequence := c.incoming.sequence
  hasUnsent := c.isBusy
  unsentStart := c.outgoing.start
  unsentBuffer := c.outgoing.buffer
  reassembly := c.incoming.assembly.reassembly
  fragmentBuffer := c.incoming.assembly.bytes
  showDrops := c.showDrops
  tally := c.incoming.tally

@[simp] theorem buffered_hasUnsent (c : Channel) : c.buffered.hasUnsent = c.isBusy := rfl

@[simp] theorem buffered_header (c : Channel) (fragment : Option Fragment) :
    c.buffered.ends.header fragment = c.header fragment := rfl

@[simp] theorem buffered_refusal? (c : Channel) (source : Address) (header : Header) :
    c.buffered.ends.refusal? source header = c.refusal? source header := rfl

variable {c : Channel}

/-! ## Sending -/

theorem buffered_start {u : Unsent} (hunsent : c.outgoing.unsent = some u) :
    c.buffered.unsentStart = u.start := by
  simp only [buffered, Outgoing.start, hunsent]

theorem buffered_buffer {u : Unsent} (hunsent : c.outgoing.unsent = some u) :
    c.buffered.unsentBuffer = u.message := by
  simp only [buffered, Outgoing.buffer, hunsent]

/-- Behind the last fragment the buffer is clear, and the last fragment is the one that is
not full, as long as the place is not past the end. -/
theorem buffered_advance {u : Unsent} (hunsent : c.outgoing.unsent = some u)
    (hwithin : u.start ≤ u.message.size) :
    c.buffered.advance u.nextLength = (c.advance u).buffered := by
  have hstart := buffered_start hunsent
  have hbuffer := buffered_buffer hunsent
  have hlength : u.nextLength = min fragmentSize (u.message.size - u.start) := rfl
  by_cases hlast : u.nextLength < fragmentSize
  · have hend : u.start + u.nextLength = u.message.size ∧ u.nextLength ≠ fragmentSize := by
      omega
    have hnext : u.next? = none := if_pos hlast
    rw [BufferedChannel.advance, hstart, hbuffer, if_pos hend, advance, hnext]
    rfl
  · have hmore : ¬(u.start + u.nextLength = u.message.size ∧ u.nextLength ≠ fragmentSize) := by
      omega
    have hnext : u.next? = some { u with start := u.nextStop } := if_neg hlast
    rw [BufferedChannel.advance, hstart, hbuffer, if_neg hmore, advance, hnext]
    simp only [buffered, isBusy, Outgoing.start, Outgoing.buffer, hunsent, Unsent.nextStop,
      Option.isSome_some]

theorem buffered_nextLength {u : Unsent} (hunsent : c.outgoing.unsent = some u) :
    c.buffered.nextLength = u.nextLength := by
  simp only [BufferedChannel.nextLength, Unsent.nextLength, buffered_start hunsent,
    buffered_buffer hunsent]

theorem buffered_sendFragment {u : Unsent} (hunsent : c.outgoing.unsent = some u)
    (hwithin : u.start ≤ u.message.size) :
    c.buffered.transmitNext =
      (c.sendFragment u).map fun sent => (some sent.1, sent.2.buffered) := by
  have hbusy : c.buffered.hasUnsent = true := by
    rw [buffered_hasUnsent, isBusy, hunsent, Option.isSome_some]
  have hfragment : c.buffered.nextFragment = u.nextFragment := by
    rw [BufferedChannel.nextFragment, buffered_start hunsent, buffered_nextLength hunsent]
    rfl
  have hpayload : c.buffered.nextPayload = u.nextPayload := by
    rw [BufferedChannel.nextPayload, buffered_start hunsent, buffered_buffer hunsent,
      buffered_nextLength hunsent]
    rfl
  rw [BufferedChannel.transmitNext, if_pos hbusy, sendFragment, hfragment, hpayload,
    buffered_start hunsent, buffered_buffer hunsent, buffered_nextLength hunsent,
    buffered_advance hunsent hwithin, buffered_header]
  cases (c.header (some u.nextFragment)).encode <;> rfl

theorem buffered_transmitNext (hsound : c.outgoing.Sound) :
    c.buffered.transmitNext = c.transmitNext.map fun sent => (sent.1, sent.2.buffered) := by
  cases hunsent : c.outgoing.unsent with
  | none =>
      have hidle : c.buffered.hasUnsent = false := by
        rw [buffered_hasUnsent, isBusy, hunsent, Option.isSome_none]
      rw [BufferedChannel.transmitNext, hidle, transmitNext, hunsent]
      rfl
  | some u =>
      rw [buffered_sendFragment hunsent (hsound.unsent u hunsent).within, transmitNext]
      simp only [hunsent]
      cases c.sendFragment u <;> rfl

/-- A message that has to be split is in the buffer before its first fragment leaves. -/
theorem buffered_load (c : Channel) (message : ByteArray) :
    c.buffered.load message =
      { c with outgoing := ⟨c.outgoing.sequence, some ⟨message, 0⟩⟩ : Channel }.buffered :=
  rfl

theorem buffered_transmit (c : Channel) (message : ByteArray) :
    c.buffered.transmit message =
      (c.transmit message).map fun sent => (some sent.1, sent.2.buffered) := by
  rw [BufferedChannel.transmit, transmit, buffered_hasUnsent]
  by_cases hbusy : c.isBusy = true
  · rw [if_pos hbusy, if_pos hbusy]
    rfl
  · rw [if_neg hbusy, if_neg hbusy]
    by_cases hlong : maxUnfragmentedSize < message.size
    · rw [if_pos hlong, if_pos hlong, buffered_load, buffered_sendFragment rfl (Nat.zero_le _)]
      rfl
    · rw [if_neg hlong, if_neg hlong, sendWhole, buffered_header]
      have hunsent : c.outgoing.unsent = none := by
        simpa [isBusy] using hbusy
      have hfinish : c.buffered.finishWhole = c.finishMessage.buffered := by
        simp only [BufferedChannel.finishWhole, buffered, finishMessage, isBusy,
          Outgoing.start, Outgoing.buffer, hunsent]
      rw [hfinish]
      cases (c.header none).encode <;> rfl

/-! ## Receiving -/

theorem buffered_reassembly {assembly : Assembly} (hassembly : c.incoming.assembly = assembly) :
    c.buffered.reassembly = assembly.reassembly :=
  congrArg Assembly.reassembly hassembly

theorem buffered_discard (c : Channel) (source : Address) (cause : Discard)
    (cursor : Cursor) :
    c.buffered.discard source cause cursor =
      (c.discard source cause cursor).map id buffered := rfl

/-- Nothing is left in the buffer of a channel that puts nothing together. -/
theorem buffered_accept (hidle : c.incoming.assembly = .idle) (source : Address)
    (sequence : UInt32) (cursor : Cursor) :
    c.buffered.accept source sequence cursor =
      (c.accept source sequence cursor).map id buffered := by
  simp only [BufferedChannel.accept, buffered, accept, hidle, Prod.map_apply, id]
  rfl

theorem buffered_abandon {partialSequence : UInt32} {bytes : ByteArray}
    (hassembly : c.incoming.assembly = .gathering partialSequence bytes)
    (sequence : UInt32) :
    c.buffered.abandon partialSequence sequence =
      (c.abandon sequence).map id buffered := by
  simp only [BufferedChannel.abandon, buffered, abandon, hassembly, Prod.map_apply, id]
  rfl

theorem buffered_receiveWhole (c : Channel) (source : Address) (sequence : UInt32)
    (cursor : Cursor) :
    c.buffered.receiveWhole source sequence cursor =
      (c.receiveWhole source sequence cursor).map id buffered := by
  cases hassembly : c.incoming.assembly with
  | idle =>
      have hphase : c.buffered.reassembly = .idle := buffered_reassembly hassembly
      have hnone : c.abandon sequence = ([], c) := by
        simp only [abandon, hassembly]
      rw [BufferedChannel.receiveWhole, hphase, receiveWhole, hnone]
      exact buffered_accept hassembly source sequence cursor
  | gathering partialSequence bytes =>
      have hphase : c.buffered.reassembly = .fragments partialSequence :=
        buffered_reassembly hassembly
      have hidle : (c.abandon sequence).2.incoming.assembly = .idle := by
        rw [abandon_eq]
      simp only [BufferedChannel.receiveWhole, hphase, receiveWhole,
        buffered_abandon hassembly, Prod.map_fst, Prod.map_snd, id,
        buffered_accept hidle]
      rfl

theorem buffered_gather (c : Channel) (sequence : UInt32) :
    c.buffered.gather sequence = (c.gather sequence).map id buffered := by
  cases hassembly : c.incoming.assembly with
  | idle =>
      simp only [BufferedChannel.gather, gather, buffered, hassembly, Assembly.reassembly,
        Assembly.sequence?, abandon, reduceCtorEq, if_false]
      rfl
  | gathering current bytes =>
      have hphase : c.buffered.reassembly = .fragments current := buffered_reassembly hassembly
      have hsequence : c.incoming.assembly.sequence? = some current := by
        rw [hassembly, Assembly.sequence?]
      by_cases hsame : current = sequence
      · rw [BufferedChannel.gather, hphase, gather, hsequence, hsame, if_pos rfl]
        exact if_pos rfl
      · have hother : ¬(some current = some sequence) := fun h => hsame (Option.some.inj h)
        simp only [BufferedChannel.gather, hphase, gather, hsequence, if_neg hsame,
          if_neg hother, buffered_abandon hassembly]
        rfl

/-- A message that is being put together grows in the buffer. -/
theorem buffered_extend {sequence : UInt32} {bytes : ByteArray}
    (hassembly : c.incoming.assembly = .gathering sequence bytes) (payload : ByteArray) :
    c.buffered.extend payload = (c.extend payload).buffered := by
  simp only [BufferedChannel.extend, buffered, extend, hassembly]
  rfl

/-- The complete message is taken out of the buffer. -/
theorem buffered_settle (c : Channel) (source : Address) (sequence : UInt32)
    (isLast : Bool) (cursor : Cursor) :
    c.buffered.settle source sequence isLast cursor =
      (c.settle source sequence isLast cursor).map id buffered := by
  cases isLast <;> rfl

theorem buffered_appendFragment {sequence : UInt32} {bytes : ByteArray}
    (hassembly : c.incoming.assembly = .gathering sequence bytes) (source : Address)
    (fragment : Fragment) (cursor : Cursor) :
    c.buffered.appendFragment source sequence fragment cursor =
      (c.appendFragment source sequence fragment cursor).map id buffered := by
  have hbuffer : c.buffered.fragmentBuffer = c.incoming.assembly.bytes := rfl
  rw [BufferedChannel.appendFragment, appendFragment, hbuffer]
  by_cases hmissing : fragment.start ≠ UInt16.ofNat c.incoming.assembly.bytes.size
  · rw [if_pos hmissing, if_pos hmissing]
    exact c.buffered_discard source _ cursor
  · rw [if_neg hmissing, if_neg hmissing]
    by_cases hlarge :
        maxMessageSize < c.incoming.assembly.bytes.size + fragment.length.toNat
    · rw [if_pos hlarge, if_pos hlarge]
      exact c.buffered_discard source _ cursor
    · rw [if_neg hlarge, if_neg hlarge]
      rcases cursor.read fragment.length.toNat with ⟨cause | payload, rest⟩
      · exact c.buffered_discard source _ rest
      · simp only [buffered_extend hassembly]
        exact (c.extend payload).buffered_settle source sequence fragment.isLast rest

theorem buffered_receiveFragment (c : Channel) (source : Address) (sequence : UInt32)
    (fragment : Fragment) (cursor : Cursor) :
    c.buffered.receiveFragment source sequence fragment cursor =
      (c.receiveFragment source sequence fragment cursor).map id buffered := by
  rw [BufferedChannel.receiveFragment, receiveFragment]
  split
  · exact c.buffered_discard source _ cursor
  · have hgathering : (c.gather sequence).2.incoming.assembly =
        .gathering sequence (c.gathered sequence) := by
      rw [gather_eq, gathering]
    rw [buffered_gather]
    simp only [Prod.map_fst, Prod.map_snd, id, buffered_appendFragment hgathering]
    rfl

theorem buffered_receive (c : Channel) (source : Address) (datagram : Cursor) :
    c.buffered.receive source datagram = (c.receive source datagram).map id buffered := by
  have hside : c.buffered.side = c.side := rfl
  rw [BufferedChannel.receive, receive, hside]
  by_cases hconnectionless : isConnectionless datagram.bytes = true
  · rw [if_pos hconnectionless, if_pos hconnectionless]
    rfl
  · rw [if_neg hconnectionless, if_neg hconnectionless]
    rcases Header.read (c.side == .server) datagram.rewind with ⟨cause | header, cursor⟩
    · exact c.buffered_discard source _ cursor
    · simp only [buffered_refusal?]
      cases c.refusal? source header with
      | some cause => exact c.buffered_discard source cause cursor
      | none =>
          cases hfragment : header.fragment with
          | none => exact c.buffered_receiveWhole source header.sequence cursor
          | some fragment =>
              exact c.buffered_receiveFragment source header.sequence fragment cursor

end Channel

/-! ## Runs -/

namespace BufferedChannel

def setup (side : Side) (remote : Address) (qport : UInt16) (showDrops : Bool) :
    BufferedChannel :=
  { side, remote, qport, showDrops }

/-- Carries out a call.  A message that is started too early is refused. -/
def perform (c : BufferedChannel) : Channel.Call → BufferedChannel
  | .transmit message =>
      match c.transmit message with
      | .ok (_, after) => after
      | .error _ => c
  | .transmitNext =>
      match c.transmitNext with
      | .ok (_, after) => after
      | .error _ => c
  | .receive source datagram => (c.receive source (.ofBytes datagram)).2

def run (c : BufferedChannel) (calls : List Channel.Call) : BufferedChannel :=
  calls.foldl perform c

/-- What holds of the fields between two calls. -/
structure WellFormed (c : BufferedChannel) : Prop where
  sequence : 1 ≤ c.outgoingSequence.toNat ∧ c.outgoingSequence.toNat ≤ 0x7FFFFFFE
  busy : c.hasUnsent = true →
    maxUnfragmentedSize < c.unsentBuffer.size ∧ fragmentSize ∣ c.unsentStart ∧
      c.unsentStart ≤ c.unsentBuffer.size
  idle : c.hasUnsent = false → c.unsentStart = 0 ∧ c.unsentBuffer = ByteArray.empty
  empty : c.reassembly = .idle → c.fragmentBuffer = ByteArray.empty
  gathering : ∀ sequence, c.reassembly = .fragments sequence →
    Sequence.newer sequence c.incomingSequence = true ∧
      fragmentSize ∣ c.fragmentBuffer.size ∧ c.fragmentBuffer.size ≤ maxMessageSize

end BufferedChannel

namespace Channel

variable {c : Channel}

theorem buffered_perform (hsound : c.Sound) (call : Call) :
    c.buffered.perform call = (c.perform call).buffered := by
  cases call with
  | transmit message =>
      rw [BufferedChannel.perform, buffered_transmit, perform]
      cases c.transmit message <;> rfl
  | transmitNext =>
      rw [BufferedChannel.perform, buffered_transmitNext hsound.outgoing, perform]
      cases c.transmitNext <;> rfl
  | receive source datagram =>
      rw [BufferedChannel.perform, buffered_receive, perform]
      rfl

/-- A run in buffers is the run without them. -/
theorem buffered_run (hsound : c.Sound) (calls : List Call) :
    c.buffered.run calls = (c.run calls).buffered := by
  induction calls generalizing c with
  | nil => rfl
  | cons call rest ih =>
      change (c.buffered.perform call).run rest = ((c.perform call).run rest).buffered
      rw [buffered_perform hsound]
      exact ih (hsound.perform call)

theorem Sound.wellFormed (hsound : c.Sound) : c.buffered.WellFormed where
  sequence := (Sequence.sendable_iff_toNat _).mp hsound.outgoing.sendable
  busy := by
    intro hbusy
    cases hunsent : c.outgoing.unsent with
    | none => simp [isBusy, hunsent] at hbusy
    | some u =>
        have hplace := hsound.outgoing.unsent u hunsent
        simp only [buffered, Outgoing.buffer, Outgoing.start, hunsent]
        exact ⟨hplace.long, hplace.aligned, hplace.within⟩
  idle := by
    intro hidle
    cases hunsent : c.outgoing.unsent with
    | none => simp only [buffered, Outgoing.buffer, Outgoing.start, hunsent, and_self]
    | some u => simp [isBusy, hunsent] at hidle
  empty := by
    intro hidle
    cases hassembly : c.incoming.assembly with
    | idle => simp only [buffered, hassembly, Assembly.bytes]
    | gathering sequence bytes =>
        rw [buffered_reassembly hassembly] at hidle
        cases hidle
  gathering := by
    intro sequence hfragments
    cases hassembly : c.incoming.assembly with
    | idle =>
        rw [buffered_reassembly hassembly] at hfragments
        cases hfragments
    | gathering current bytes =>
        rw [buffered_reassembly hassembly] at hfragments
        cases hfragments
        exact ⟨hsound.incoming.newer sequence bytes hassembly, hsound.incoming.full,
          hsound.incoming.within⟩

end Channel

namespace BufferedChannel

/-- The fields keep their form whatever is called and whatever arrives, and the channel is
the one without buffers.  Sending from such a state never fails, but for a message that is
started too early. -/
theorem wellFormed_run (side : Side) (remote : Address) (qport : UInt16)
    (showDrops : Bool) (calls : List Channel.Call) :
    ((setup side remote qport showDrops).run calls).WellFormed ∧
      (setup side remote qport showDrops).run calls =
        ((Channel.setup side remote qport showDrops).run calls).buffered ∧
      (((setup side remote qport showDrops).run calls).hasUnsent = false → ∀ message,
        ∃ sent, ((setup side remote qport showDrops).run calls).transmit message =
          .ok sent) ∧
      ∃ sent, ((setup side remote qport showDrops).run calls).transmitNext = .ok sent := by
  have hstart := Channel.sound_setup side remote qport showDrops
  have hrun : (setup side remote qport showDrops).run calls =
      ((Channel.setup side remote qport showDrops).run calls).buffered :=
    Channel.buffered_run hstart calls
  have hsound := hstart.run calls
  refine ⟨?_, hrun, ?_, ?_⟩
  · rw [hrun]
    exact hsound.wellFormed
  · rw [hrun]
    intro hidle message
    obtain ⟨d, after, hsend, -⟩ := Channel.transmit_sound hsound.outgoing hidle message
    rw [Channel.buffered_transmit, hsend]
    exact ⟨_, rfl⟩
  · rw [hrun]
    obtain ⟨d, after, hsend, -⟩ := Channel.transmitNext_sound hsound.outgoing
    rw [Channel.buffered_transmitNext hsound.outgoing, hsend]
    exact ⟨_, rfl⟩

end BufferedChannel
end DatagramLink

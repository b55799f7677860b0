import DatagramLink.Proofs.HeaderReading
import DatagramLink.Proofs.Reassembly

/-!
# What a channel makes of a datagram

`Channel.Receives` lists everything that a datagram can do to a channel, whoever sent it:
it is ignored, it is dropped, it is a message of its own, or it is a fragment that is
misplaced, added, or the last one.  Each case has its guards and the channel behind it in
full, so that an invariant of receiving is a case analysis over six cases and never opens
the receiver again.
-/

namespace DatagramLink

/-- Not longer than a full fragment, and with a payload that is all there. -/
def Fragment.Legal (f : Fragment) (payload : ByteArray) : Prop :=
  f.length.toNat ≤ fragmentSize ∧ f.length.toNat ≤ payload.size

/-- Starts where the gathered bytes end, and stays within the largest message. -/
def Fragment.Continues (f : Fragment) (gathered : ByteArray) : Prop :=
  f.start = UInt16.ofNat gathered.size ∧
    gathered.size + f.length.toNat ≤ maxMessageSize

/-- As many bytes as there are can be read. -/
theorem Cursor.read_extract (c : Cursor) (hin : c.InBounds) {count : Nat}
    (hcount : count ≤ c.remaining.size) :
    c.read count = (.ok (c.remaining.extract 0 count), c.skip count) := by
  have hsize : (c.remaining.extract 0 count).size = count := by
    rw [ByteArray.size_extract]
    omega
  have hrest : c.remaining =
      c.remaining.extract 0 count ++ c.remaining.extract count c.remaining.size := by
    rw [ByteArray.extract_append_extract, Nat.min_eq_left (Nat.zero_le _),
      Nat.max_eq_right hcount, ByteArray.extract_zero_size]
  have hread := Cursor.read_of_append hin hrest
  rw [hsize] at hread
  exact hread

namespace Incoming

/-- The counts once the partial message, if there is one, is given up. -/
def tallyGivenUp (i : Incoming) : Tally :=
  match i.assembly with
  | .idle => i.tally
  | .gathering _ _ => i.tally.abandon

/-- The counts once a message is the one that is put together. -/
def tallyFor (i : Incoming) (sequence : UInt32) : Tally :=
  if i.assembly.sequence? = some sequence then i.tally else i.tallyGivenUp

/-- Giving up a partial message counts it and leaves the other counts alone. -/
theorem tallyGivenUp_eq (i : Incoming) :
    ∃ abandoned, i.tallyGivenUp = { i.tally with abandoned } := by
  unfold tallyGivenUp
  split
  · exact ⟨i.tally.abandoned, rfl⟩
  · exact ⟨i.tally.abandoned + 1, rfl⟩

theorem tallyFor_eq (i : Incoming) (sequence : UInt32) :
    ∃ abandoned, i.tallyFor sequence = { i.tally with abandoned } := by
  unfold tallyFor
  split
  · exact ⟨i.tally.abandoned, rfl⟩
  · exact i.tallyGivenUp_eq

end Incoming

namespace Channel

/-- A datagram that gets past every check of its header. -/
structure Takes (c : Channel) (source : Address) (datagram : ByteArray) (header : Header)
    (payload : ByteArray) : Prop where
  sequenced : isConnectionless datagram = false
  bytes : datagram = header.bytes ++ payload
  range : header.sequence < Sequence.fragmentBit
  qport : header.qport = c.peerStamp
  recognized : c.recognizes source = true
  newer : Sequence.newer header.sequence c.incoming.sequence = true

/-- Why a datagram is dropped without touching the partial message. -/
inductive Drops (c : Channel) (source : Address) (datagram : ByteArray) : Discard → Prop
  | truncated {cause : Truncated}
      (hread : (Header.read (c.side == .server) (.ofBytes datagram)).1 = .error cause) :
      Drops c source datagram (.truncated cause)
  | refused {header : Header} {payload : ByteArray} {cause : Discard}
      (hbytes : datagram = header.bytes ++ payload)
      (hrefusal : c.refusal? source header = some cause) :
      Drops c source datagram cause
  | illegal {header : Header} {payload : ByteArray} {f : Fragment}
      (htakes : c.Takes source datagram header payload)
      (hfragment : header.fragment = some f) (hillegal : ¬ f.Legal payload) :
      Drops c source datagram (.illegalFragment f c.incoming.assembly.bytes.size)

/-- Why a fragment that does not continue its message is dropped. -/
def misfit (c : Channel) (sequence : UInt32) (f : Fragment) : Discard :=
  if f.start ≠ UInt16.ofNat (c.gathered sequence).size then
    .missingFragment sequence (c.gathered sequence).size f.start
  else
    .illegalFragment f (c.gathered sequence).size

/-- The receiving direction while a message is put together. -/
def gathering (c : Channel) (sequence : UInt32) (bytes : ByteArray) (tally : Tally) :
    Channel :=
  { c with incoming := ⟨c.incoming.sequence, .gathering sequence bytes, tally⟩ }

/-- The channel after a complete message. -/
def accepted (c : Channel) (source : Address) (sequence : UInt32) (tally : Tally) :
    Channel :=
  { c with
    remote := source
    incoming :=
      ⟨sequence, .idle, tally.deliver (Sequence.gap sequence c.incoming.sequence)⟩ }

inductive Receives (c : Channel) (source : Address) (datagram : ByteArray) :
    Verdict → Option ByteArray → Channel → Prop
  | ignored (hconnectionless : isConnectionless datagram = true) :
      Receives c source datagram .connectionless none c
  | dropped {cause : Discard} (hsequenced : isConnectionless datagram = false)
      (hdrops : c.Drops source datagram cause) :
      Receives c source datagram (.discarded cause) none
        { c with incoming :=
            { c.incoming with tally := c.incoming.tally.discard cause } }
  | whole {header : Header} {payload : ByteArray}
      (htakes : c.Takes source datagram header payload) (hwhole : header.fragment = none) :
      Receives c source datagram .delivered (some payload)
        (c.accepted source header.sequence c.incoming.tallyGivenUp)
  | misplaced {header : Header} {payload : ByteArray} {f : Fragment}
      (htakes : c.Takes source datagram header payload)
      (hfragment : header.fragment = some f) (hlegal : f.Legal payload)
      (hmisplaced : ¬ f.Continues (c.gathered header.sequence)) :
      Receives c source datagram (.discarded (c.misfit header.sequence f)) none
        (c.gathering header.sequence (c.gathered header.sequence)
          ((c.incoming.tallyFor header.sequence).discard (c.misfit header.sequence f)))
  | added {header : Header} {payload : ByteArray} {f : Fragment}
      (htakes : c.Takes source datagram header payload)
      (hfragment : header.fragment = some f) (hlegal : f.Legal payload)
      (hcontinues : f.Continues (c.gathered header.sequence)) (hmore : f.isLast = false) :
      Receives c source datagram .gathered none
        (c.gathering header.sequence
          (c.gathered header.sequence ++ payload.extract 0 f.length.toNat)
          (c.incoming.tallyFor header.sequence))
  | completed {header : Header} {payload : ByteArray} {f : Fragment}
      (htakes : c.Takes source datagram header payload)
      (hfragment : header.fragment = some f) (hlegal : f.Legal payload)
      (hcontinues : f.Continues (c.gathered header.sequence)) (hlast : f.isLast = true) :
      Receives c source datagram .delivered
        (some (c.gathered header.sequence ++ payload.extract 0 f.length.toNat))
        (c.accepted source header.sequence (c.incoming.tallyFor header.sequence))

variable {c : Channel} {source : Address} {datagram : ByteArray} {header : Header}
  {cursor : Cursor}

@[simp] theorem bytes_gathering (c : Channel) (sequence : UInt32) (bytes : ByteArray)
    (tally : Tally) :
    (c.gathering sequence bytes tally).incoming.assembly.bytes = bytes := rfl

theorem abandon_eq (c : Channel) (sequence : UInt32) :
    (c.abandon sequence).2 =
      { c with incoming := ⟨c.incoming.sequence, .idle, c.incoming.tallyGivenUp⟩ } := by
  obtain ⟨side, remote, qport, showDrops, outgoing, ⟨accepted, assembly, tally⟩⟩ := c
  cases assembly <;> rfl

/-- To go on gathering the same message changes nothing but the counts. -/
theorem gathering_of_sequence? {sequence : UInt32}
    (hsame : c.incoming.assembly.sequence? = some sequence) (tally : Tally) :
    c.gathering sequence (c.gathered sequence) tally =
      { c with incoming := { c.incoming with tally } } := by
  have hassembly := Assembly.eq_gathering_of_sequence? hsame
  simp only [gathering, gathered, if_pos hsame]
  rw [← hassembly]

theorem gather_eq (c : Channel) (sequence : UInt32) :
    (c.gather sequence).2 =
      c.gathering sequence (c.gathered sequence) (c.incoming.tallyFor sequence) := by
  by_cases hsame : c.incoming.assembly.sequence? = some sequence
  · rw [gathering_of_sequence? hsame, gather, if_pos hsame, Incoming.tallyFor, if_pos hsame]
  · simp only [gather, gathering, gathered, Incoming.tallyFor, if_neg hsame]
    rw [abandon_eq]

/-- Nothing stands against a datagram that is not refused. -/
theorem takes_of_read {rest : Cursor} (hsequenced : isConnectionless datagram = false)
    (hread : Header.read (c.side == .server) (.ofBytes datagram) = (.ok header, rest))
    (hrefusal : c.refusal? source header = none) :
    c.Takes source datagram header rest.remaining := by
  obtain ⟨hbytes, hrange, hsome⟩ := Header.eq_bytes_append_of_read hread
  rw [Cursor.remaining_ofBytes] at hbytes
  unfold refusal? at hrefusal
  split at hrefusal
  · cases hrefusal
  · next hqport =>
      split at hrefusal
      · cases hrefusal
      · next hrecognized =>
          split at hrefusal
          · cases hrefusal
          · next hnewer =>
              refine ⟨hsequenced, hbytes, hrange, ?_, by simpa using hrecognized,
                by simpa using hnewer⟩
              unfold peerStamp
              cases hside : c.side with
              | client =>
                  rw [hside] at hsome
                  exact Option.isSome_eq_false_iff.mp hsome |> Option.isNone_iff_eq_none.mp
              | server => simpa [hside] using hqport

theorem receives_whole (htakes : c.Takes source datagram header cursor.remaining)
    (hwhole : header.fragment = none) :
    c.Receives source datagram
      (c.receiveWhole source header.sequence cursor).1.verdict
      (c.receiveWhole source header.sequence cursor).1.message?
      (c.receiveWhole source header.sequence cursor).2 := by
  have habandon := c.abandon_eq header.sequence
  have hafter : (c.receiveWhole source header.sequence cursor).2 =
      c.accepted source header.sequence c.incoming.tallyGivenUp := by
    change ((c.abandon header.sequence).2.accept source header.sequence cursor).2 = _
    rw [habandon]
    rfl
  rw [hafter]
  exact .whole htakes hwhole

/-- A fragment that is not refused changes the channel that gathers its message. -/
theorem receiveFragment_eq {f : Fragment} (sequence : UInt32)
    (hlegal : f.Legal cursor.remaining) :
    c.receiveFragment source sequence f cursor =
      match (c.gathering sequence (c.gathered sequence)
          (c.incoming.tallyFor sequence)).appendFragment source sequence f cursor with
      | (receipt, d) => (receipt.after (c.gather sequence).1, d) := by
  have hpass : ¬ (fragmentSize < f.length.toNat ∨
      cursor.remaining.size < f.length.toNat) := by
    rw [not_or, Nat.not_lt, Nat.not_lt]
    exact hlegal
  rw [← gather_eq, receiveFragment, if_neg hpass]

/-- A fragment that does not continue what is gathered is dropped, and its message is the one that
is put together from then on. -/
theorem receiveFragment_of_misfit (source : Address) {f : Fragment} {sequence : UInt32}
    (hlegal : f.Legal cursor.remaining) (hmisfit : ¬ f.Continues (c.gathered sequence)) :
    ∃ records,
      c.receiveFragment source sequence f cursor =
        (⟨.discarded (c.misfit sequence f), cursor, records⟩,
          c.gathering sequence (c.gathered sequence)
            ((c.incoming.tallyFor sequence).discard (c.misfit sequence f))) := by
  rw [receiveFragment_eq sequence hlegal, appendFragment, bytes_gathering, misfit]
  by_cases hstart : f.start = UInt16.ofNat (c.gathered sequence).size
  · have hlarge : maxMessageSize < (c.gathered sequence).size + f.length.toNat :=
      Nat.not_le.mp fun hfits => hmisfit ⟨hstart, hfits⟩
    rw [if_neg (not_not_intro hstart), if_neg (not_not_intro hstart), if_pos hlarge]
    exact ⟨_, rfl⟩
  · rw [if_pos hstart, if_pos hstart]
    exact ⟨_, rfl⟩

/-- A fragment that continues what is gathered is added to it. -/
theorem receiveFragment_of_continues (source : Address) {f : Fragment} {sequence : UInt32}
    (hin : cursor.InBounds) (hlegal : f.Legal cursor.remaining)
    (hcontinues : f.Continues (c.gathered sequence)) :
    c.receiveFragment source sequence f cursor =
      Prod.map (·.after (c.gather sequence).1) id
        ((c.gathering sequence
            (c.gathered sequence ++ cursor.remaining.extract 0 f.length.toNat)
            (c.incoming.tallyFor sequence)).settle source sequence f.isLast
          (cursor.skip f.length.toNat)) := by
  rw [receiveFragment_eq sequence hlegal, appendFragment, bytes_gathering,
    if_neg (not_not_intro hcontinues.1), if_neg (Nat.not_lt.mpr hcontinues.2),
    cursor.read_extract hin hlegal.2]
  rfl

theorem receives_fragment {f : Fragment}
    (htakes : c.Takes source datagram header cursor.remaining) (hin : cursor.InBounds)
    (hfragment : header.fragment = some f) :
    c.Receives source datagram
      (c.receiveFragment source header.sequence f cursor).1.verdict
      (c.receiveFragment source header.sequence f cursor).1.message?
      (c.receiveFragment source header.sequence f cursor).2 := by
  by_cases hlegal : f.Legal cursor.remaining
  · by_cases hcontinues : f.Continues (c.gathered header.sequence)
    · rw [receiveFragment_of_continues source hin hlegal hcontinues]
      cases hlast : f.isLast with
      | false => exact .added htakes hfragment hlegal hcontinues hlast
      | true =>
          have hcompleted := Receives.completed htakes hfragment hlegal hcontinues hlast
          rw [← Cursor.remaining_ofBytes (c.gathered header.sequence ++ _)] at hcompleted
          exact hcompleted
    · obtain ⟨records, hdropped⟩ := receiveFragment_of_misfit source hlegal hcontinues
      rw [hdropped]
      exact .misplaced htakes hfragment hlegal hcontinues
  · have hstop : fragmentSize < f.length.toNat ∨
        cursor.remaining.size < f.length.toNat := by
      by_contra hpass
      rw [not_or, Nat.not_lt, Nat.not_lt] at hpass
      exact hlegal hpass
    rw [receiveFragment, if_pos hstop]
    exact .dropped htakes.sequenced (.illegal htakes hfragment hlegal)

theorem receives_self (c : Channel) (source : Address) (datagram : ByteArray) :
    c.Receives source datagram
      (c.receive source (.ofBytes datagram)).1.verdict
      (c.receive source (.ofBytes datagram)).1.message?
      (c.receive source (.ofBytes datagram)).2 := by
  unfold receive
  cases hsequenced : isConnectionless (Cursor.ofBytes datagram).bytes with
  | true => exact .ignored hsequenced
  | false =>
      have hin := Header.inBounds_read (Cursor.inBounds_ofBytes datagram)
        (c.side == .server)
      rw [Cursor.rewind_ofBytes]
      cases hread : Header.read (c.side == .server) (.ofBytes datagram) with
      | mk result rest =>
          rw [hread] at hin
          cases result with
          | error cause =>
              exact .dropped hsequenced (.truncated (congrArg Prod.fst hread))
          | ok header =>
              simp only [Bool.false_eq_true, if_false]
              cases hrefusal : c.refusal? source header with
              | some cause =>
                  have hbytes := (Header.eq_bytes_append_of_read hread).1
                  rw [Cursor.remaining_ofBytes] at hbytes
                  exact .dropped hsequenced (.refused hbytes hrefusal)
              | none =>
                  have htakes := takes_of_read hsequenced hread hrefusal
                  cases hkind : header.fragment with
                  | none => exact receives_whole htakes hkind
                  | some f => exact receives_fragment htakes hin hkind

/-- Every datagram, hostile ones included, falls under one of the cases. -/
theorem receives (c : Channel) (source : Address) (datagram : ByteArray) :
    ∃ verdict message? after,
      (c.receive source (.ofBytes datagram)).1.verdict = verdict ∧
        (c.receive source (.ofBytes datagram)).1.message? = message? ∧
        (c.receive source (.ofBytes datagram)).2 = after ∧
        c.Receives source datagram verdict message? after :=
  ⟨_, _, _, rfl, rfl, rfl, c.receives_self source datagram⟩

end Channel
end DatagramLink

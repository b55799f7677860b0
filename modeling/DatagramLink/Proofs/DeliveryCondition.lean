import Mathlib.Data.List.FinRange
import DatagramLink.Proofs.ChannelSafety
import DatagramLink.Proofs.TakenDatagrams

/-!
# When a message is delivered

The datagrams of one message arrive in any order, any number of times or not at all, and nothing
else arrives.  A receiver counts only how many of them it has got in their order: a datagram moves
it on if it is the next one and changes nothing otherwise, since no two fragments of a message that
is not too large start at the same place.  So the message is delivered with the datagram that
completes the sequence of all of them as a subsequence of what arrived.

`orderedCount` is that count as a function of what arrived, and `Channel.Progress` says what it
means for the receiver.
-/

namespace DatagramLink

/-! ## Numbers that arrive -/

/-- One more datagram came in order if its number is the next one. -/
def nextCount (k i : Nat) : Nat := if i = k then k + 1 else k

/-- How many datagrams came in order, from `k` on. -/
def orderedCount (k : Nat) (numbers : List Nat) : Nat := numbers.foldl nextCount k

theorem le_nextCount (k i : Nat) : k ≤ nextCount k i := by
  unfold nextCount
  split <;> omega

theorem le_orderedCount (k : Nat) (numbers : List Nat) : k ≤ orderedCount k numbers := by
  induction numbers generalizing k with
  | nil => exact Nat.le_refl k
  | cons i numbers ih => exact (le_nextCount k i).trans (ih (nextCount k i))

/-- Numbers that are taken as soon as they are the next ones make up the longest run that is a
subsequence. -/
theorem range'_sublist_iff (k count : Nat) (numbers : List Nat) :
    (List.range' k count).Sublist numbers ↔ k + count ≤ orderedCount k numbers := by
  induction numbers generalizing k count with
  | nil =>
      rw [List.sublist_nil, List.range'_eq_nil_iff, orderedCount, List.foldl_nil]
      omega
  | cons i numbers ih =>
      have hstep : orderedCount k (i :: numbers) = orderedCount (nextCount k i) numbers := rfl
      cases count with
      | zero => simp [le_orderedCount]
      | succ count =>
          rw [List.range'_succ, hstep]
          by_cases hnext : i = k
          · rw [hnext, List.cons_sublist_cons, ih, nextCount, if_pos rfl]
            omega
          · rw [nextCount, if_neg hnext, ← ih, List.range'_succ, List.sublist_cons_iff]
            constructor
            · rintro (htail | ⟨rest, hhead, -⟩)
              · exact htail
              · exact absurd (List.cons.inj hhead).1.symm hnext
            · exact Or.inl

theorem finRange_sublist_iff {count : Nat} (numbers : List (Fin count)) :
    (List.finRange count).Sublist numbers ↔ count ≤ orderedCount 0 (numbers.map Fin.val) := by
  have hrange := range'_sublist_iff 0 count (numbers.map Fin.val)
  rw [Nat.zero_add] at hrange
  rw [← hrange, ← List.range_eq_range', ← List.map_coe_finRange_eq_range]
  constructor
  · exact fun hsublist => hsublist.map Fin.val
  · intro hsublist
    obtain ⟨found, hfound, hmap⟩ := List.sublist_map_iff.mp hsublist
    rw [List.map_injective_iff.mpr Fin.val_injective hmap]
    exact hfound

/-! ## Fragments that are sent -/

section
variable {message : ByteArray} {i : Nat}

theorem legal_nextFragment (hi : i ≤ message.size / fragmentSize) :
    (Unsent.nextFragment ⟨message, fragmentSize * i⟩).Legal
      (Unsent.nextPayload ⟨message, fragmentSize * i⟩) := by
  obtain ⟨-, hsize, hfull, -, -⟩ := Channel.fragment_fields hi
  exact ⟨hfull, Nat.le_of_eq hsize.symm⟩

theorem extract_nextPayload (hi : i ≤ message.size / fragmentSize) :
    (Unsent.nextPayload ⟨message, fragmentSize * i⟩).extract 0
        (Unsent.nextFragment ⟨message, fragmentSize * i⟩).length.toNat =
      Unsent.nextPayload ⟨message, fragmentSize * i⟩ := by
  obtain ⟨-, hsize, -, -, -⟩ := Channel.fragment_fields hi
  rw [← hsize, ByteArray.extract_zero_size]

theorem length_nextFragment (hi : i ≤ message.size / fragmentSize) :
    (Unsent.nextFragment ⟨message, fragmentSize * i⟩).length.toNat =
      if i = message.size / fragmentSize then message.size % fragmentSize else fragmentSize := by
  have hlength := Packet.nextLength_eq hi
  have hsmall : Unsent.nextLength ⟨message, fragmentSize * i⟩ < 2 ^ 16 :=
    (Nat.min_le_left _ _).trans_lt (by decide)
  rw [← hlength, Unsent.nextFragment, UInt16.toNat_ofNat', Nat.mod_eq_of_lt hsmall]

theorem isLast_nextFragment (hi : i ≤ message.size / fragmentSize) :
    (Unsent.nextFragment ⟨message, fragmentSize * i⟩).isLast =
      decide (i = message.size / fragmentSize) := by
  obtain ⟨-, -, -, hlast, -⟩ := Channel.fragment_fields hi
  exact Bool.eq_iff_iff.mpr (hlast.trans decide_eq_true_iff.symm)

end

namespace Channel

/-! ## A receiver that waits for a message -/

/-- The receiver has gathered the first `k` fragments of a message and can still take it. -/
structure Awaits (c : Channel) (sequence : UInt32) (message : ByteArray) (k : Nat) : Prop where
  newer : Sequence.newer sequence c.incoming.sequence = true
  gathered : c.gathered sequence = message.extract 0 (fragmentSize * k)

section
variable {c : Channel} {sequence : UInt32} {message : ByteArray} {i k : Nat}

theorem Awaits.size_gathered (hawaits : c.Awaits sequence message k)
    (hk : k ≤ message.size / fragmentSize) :
    (c.gathered sequence).size = fragmentSize * k := by
  have hstart := Nat.mul_le_mul_left fragmentSize hk
  have hdivision := Nat.div_add_mod message.size fragmentSize
  rw [hawaits.gathered, ByteArray.size_extract]
  omega

theorem Awaits.takes_fragment (hawaits : c.Awaits sequence message k)
    (hsendable : Sequence.Sendable sequence) (i : Nat) :
    c.Takes c.remote (Packet.fragment c.peerStamp sequence ⟨message, fragmentSize * i⟩).bytes
      ⟨sequence, c.peerStamp, some (Unsent.nextFragment ⟨message, fragmentSize * i⟩)⟩
      (Unsent.nextPayload ⟨message, fragmentSize * i⟩) :=
  takes_packet (p := Packet.fragment c.peerStamp sequence ⟨message, fragmentSize * i⟩) hsendable
    rfl c.recognizes_remote hawaits.newer

/-- A fragment that does not continue what is gathered changes nothing. -/
theorem Awaits.receive_misfit (hawaits : c.Awaits sequence message k)
    (hsendable : Sequence.Sendable sequence) (hi : i ≤ message.size / fragmentSize)
    (hmisfit : ¬ (Unsent.nextFragment ⟨message, fragmentSize * i⟩).Continues
      (c.gathered sequence)) :
    ∃ receipt incoming,
      c.receive c.remote
            (.ofBytes (Packet.fragment c.peerStamp sequence
              ⟨message, fragmentSize * i⟩).bytes) =
          (receipt, { c with incoming }) ∧
        receipt.message? = none ∧ Awaits { c with incoming } sequence message k := by
  obtain ⟨receipt, hreceive, hnone⟩ :=
    receive_of_misfit (hawaits.takes_fragment hsendable i) rfl (legal_nextFragment hi) hmisfit
  refine ⟨receipt, _, hreceive, hnone, hawaits.newer, ?_⟩
  exact (gathered_of_gathering rfl).trans hawaits.gathered

/-- The next fragment is added. -/
theorem Awaits.receive_more (hawaits : c.Awaits sequence message k)
    (hsendable : Sequence.Sendable sequence) (hk : k < message.size / fragmentSize)
    (hcontinues : (Unsent.nextFragment ⟨message, fragmentSize * k⟩).Continues
      (c.gathered sequence)) :
    ∃ receipt,
      c.receive c.remote
            (.ofBytes (Packet.fragment c.peerStamp sequence
              ⟨message, fragmentSize * k⟩).bytes) =
          (receipt,
            c.gathering sequence (message.extract 0 (fragmentSize * (k + 1)))
              (c.incoming.tallyFor sequence)) ∧
        receipt.message? = none := by
  have hle := Nat.le_of_lt hk
  have hmore : (Unsent.nextFragment ⟨message, fragmentSize * k⟩).isLast = false := by
    rw [isLast_nextFragment hle, decide_eq_false_iff_not]
    omega
  obtain ⟨-, -, -, -, hbytes⟩ := fragment_fields hle
  rw [if_neg hk.ne] at hbytes
  obtain ⟨receipt, hreceive, hnone⟩ :=
    receive_of_more (hawaits.takes_fragment hsendable k) rfl (legal_nextFragment hle)
      hcontinues hmore
  rw [extract_nextPayload hle, hawaits.gathered, hbytes] at hreceive
  exact ⟨receipt, hreceive, hnone⟩

theorem Awaits.gathering (hawaits : c.Awaits sequence message i) (k : Nat) (tally : Tally) :
    (c.gathering sequence (message.extract 0 (fragmentSize * k)) tally).Awaits sequence message
      k where
  newer := hawaits.newer
  gathered := gathered_of_gathering rfl

/-- The last fragment completes what is gathered. -/
theorem Awaits.receive_last (hawaits : c.Awaits sequence message k)
    (hsendable : Sequence.Sendable sequence)
    (hcontinues :
      (Unsent.nextFragment ⟨message, fragmentSize * (message.size / fragmentSize)⟩).Continues
        (c.gathered sequence)) :
    ∃ receipt incoming,
      c.receive c.remote
            (.ofBytes (Packet.fragment c.peerStamp sequence
              ⟨message, fragmentSize * (message.size / fragmentSize)⟩).bytes) =
          (receipt, { c with incoming }) ∧
        receipt.message? =
          some (message.extract 0 (fragmentSize * k) ++
            Unsent.nextPayload ⟨message, fragmentSize * (message.size / fragmentSize)⟩) ∧
        incoming.sequence = sequence := by
  have hlast :
      (Unsent.nextFragment ⟨message, fragmentSize * (message.size / fragmentSize)⟩).isLast =
        true := by
    rw [isLast_nextFragment (Nat.le_refl _), decide_eq_true_iff]
  obtain ⟨receipt, hreceive, hmessage⟩ :=
    receive_of_last (hawaits.takes_fragment hsendable (message.size / fragmentSize)) rfl
      (legal_nextFragment (Nat.le_refl _)) hcontinues hlast
  rw [extract_nextPayload (Nat.le_refl _), hawaits.gathered] at hmessage
  exact ⟨receipt, _, hreceive, hmessage, rfl⟩

/-- Of a message that is not too large, only the next fragment continues what is gathered. -/
theorem Awaits.continues_iff (hawaits : c.Awaits sequence message k)
    (hmessage : message.size ≤ maxMessageSize) (hk : k ≤ message.size / fragmentSize)
    (hi : i ≤ message.size / fragmentSize) :
    (Unsent.nextFragment ⟨message, fragmentSize * i⟩).Continues (c.gathered sequence) ↔
      i = k := by
  obtain ⟨hstop, -⟩ := fragment_fields hi
  unfold Fragment.Continues
  rw [hawaits.size_gathered hk]
  constructor
  · rintro ⟨hstart, -⟩
    exact fragment_place_inj hmessage hk hi hstart
  · rintro rfl
    exact ⟨rfl, hstop.trans hmessage⟩

end

/-! ## One message -/

theorem Awaits.of_other {c : Channel} {sequence : UInt32} {message : ByteArray}
    (hnewer : Sequence.newer sequence c.incoming.sequence = true)
    (hother : c.incoming.assembly.sequence? ≠ some sequence) :
    c.Awaits sequence message 0 where
  newer := hnewer
  gathered := by
    rw [Channel.gathered_of_other hother, Nat.mul_zero, ByteArray.extract_same]

/-- The first fragment of a newer message starts to put it together. -/
theorem receive_first_fragment {c : Channel} {sequence : UInt32} {message : ByteArray}
    (hsendable : Sequence.Sendable sequence)
    (hnewer : Sequence.newer sequence c.incoming.sequence = true)
    (hother : c.incoming.assembly.sequence? ≠ some sequence)
    (hsplit : 0 < message.size / fragmentSize) (hmessage : message.size ≤ maxMessageSize) :
    (c.receive c.remote (.ofBytes (Packet.fragment c.peerStamp sequence ⟨message, 0⟩).bytes)).2 =
      c.gathering sequence (message.extract 0 fragmentSize) (c.incoming.tallyFor sequence) := by
  have hawaits : c.Awaits sequence message 0 := .of_other hnewer hother
  have hcontinues := (hawaits.continues_iff hmessage (Nat.zero_le _) (Nat.zero_le _)).mpr rfl
  obtain ⟨receipt, hreceive, -⟩ := hawaits.receive_more hsendable hsplit hcontinues
  exact congrArg Prod.snd hreceive

/-- The receiver has got `k` datagrams of a message in their order; with the last one it has
accepted the message. -/
inductive Progress (c : Channel) (sequence : UInt32) (message : ByteArray) : Nat → Prop
  | waiting {k : Nat} (hk : k < datagramCount message.size)
      (hawaits : c.Awaits sequence message k) : Progress c sequence message k
  | complete (hsequence : c.incoming.sequence = sequence) :
      Progress c sequence message (datagramCount message.size)

section
variable {c : Channel} {sequence : UInt32} {message : ByteArray} {i k : Nat}

theorem datagramCount_of_long (hlong : maxUnfragmentedSize < message.size) :
    datagramCount message.size = message.size / fragmentSize + 1 :=
  if_pos hlong

theorem datagramCount_of_short (hshort : ¬ maxUnfragmentedSize < message.size) :
    datagramCount message.size = 1 :=
  if_neg hshort

theorem datagramCount_pos (size : Nat) : 0 < datagramCount size := by
  unfold datagramCount
  split
  · exact Nat.succ_pos _
  · exact Nat.one_pos

theorem Progress.le (hprogress : c.Progress sequence message k) :
    k ≤ datagramCount message.size := by
  cases hprogress with
  | waiting hk hawaits => exact Nat.le_of_lt hk
  | complete hsequence => exact Nat.le_refl _

/-- A fragment moves the receiver on if it is the next one, and the last one completes the message;
any other changes nothing. -/
theorem Awaits.receive_fragment (hawaits : c.Awaits sequence message k)
    (hsendable : Sequence.Sendable sequence) (hmessage : message.size ≤ maxMessageSize)
    (hlong : maxUnfragmentedSize < message.size) (hk : k ≤ message.size / fragmentSize)
    (hi : i ≤ message.size / fragmentSize) :
    ∃ receipt incoming,
      c.receive c.remote
            (.ofBytes (Packet.fragment c.peerStamp sequence
              ⟨message, fragmentSize * i⟩).bytes) =
          (receipt, { c with incoming }) ∧
        Progress { c with incoming } sequence message (nextCount k i) ∧
        receipt.message? =
          if nextCount k i = datagramCount message.size then some message else none := by
  have hcount := datagramCount_of_long hlong
  have hcontinues := hawaits.continues_iff hmessage hk hi
  by_cases hnext : i = k
  · subst i
    have hmoves : nextCount k k = k + 1 := if_pos rfl
    by_cases hend : k = message.size / fragmentSize
    · subst k
      obtain ⟨receipt, incoming, hreceive, hdelivered, hsequence⟩ :=
        hawaits.receive_last hsendable (hcontinues.mpr rfl)
      obtain ⟨-, -, -, -, hbytes⟩ := fragment_fields hi
      rw [hbytes, if_pos rfl] at hdelivered
      rw [hmoves, ← hcount]
      exact ⟨receipt, incoming, hreceive, .complete hsequence, by rw [if_pos rfl, hdelivered]⟩
    · obtain ⟨receipt, hreceive, hnone⟩ :=
        hawaits.receive_more hsendable (by omega) (hcontinues.mpr rfl)
      rw [hmoves]
      exact ⟨receipt, _, hreceive, .waiting (by omega) (hawaits.gathering (k + 1) _),
        by rw [if_neg (by omega), hnone]⟩
  · obtain ⟨receipt, incoming, hreceive, hnone, hafter⟩ :=
      hawaits.receive_misfit hsendable hi fun hfits => hnext (hcontinues.mp hfits)
    have hsame : nextCount k i = k := if_neg hnext
    rw [hsame]
    exact ⟨receipt, incoming, hreceive, .waiting (by omega) hafter,
      by rw [if_neg (by omega), hnone]⟩

theorem Awaits.receive_packet (hawaits : c.Awaits sequence message k)
    (hsendable : Sequence.Sendable sequence) (hmessage : message.size ≤ maxMessageSize)
    (hk : k < datagramCount message.size) {p : Packet}
    (hp : (Packet.ofMessage c.peerStamp sequence message)[i]? = some p) :
    ∃ receipt incoming,
      c.receive c.remote (.ofBytes p.bytes) = (receipt, { c with incoming }) ∧
        Progress { c with incoming } sequence message (nextCount k i) ∧
        receipt.message? =
          if nextCount k i = datagramCount message.size then some message else none := by
  rcases Packet.getElem?_ofMessage.mp hp with ⟨hshort, rfl, rfl⟩ | ⟨hlong, hi, rfl⟩
  · have hcount := datagramCount_of_short (Nat.not_lt.mpr hshort)
    obtain rfl : k = 0 := by omega
    obtain ⟨receipt, hreceive, hdelivered⟩ :=
      receive_of_whole (takes_packet (p := Packet.whole c.peerStamp sequence message) hsendable
        rfl c.recognizes_remote hawaits.newer) rfl
    have hdone : nextCount 0 0 = datagramCount message.size := by
      rw [hcount]
      rfl
    rw [hdone]
    exact ⟨receipt, _, hreceive, .complete rfl, by rw [if_pos rfl, hdelivered]; rfl⟩
  · have hcount := datagramCount_of_long hlong
    exact hawaits.receive_fragment hsendable hmessage hlong (by omega) hi

/-- Every datagram of the message, whichever it is and however often it came before. -/
theorem Progress.receive (hprogress : c.Progress sequence message k)
    (hsendable : Sequence.Sendable sequence) (hmessage : message.size ≤ maxMessageSize)
    {p : Packet} (hp : (Packet.ofMessage c.peerStamp sequence message)[i]? = some p) :
    ∃ receipt incoming,
      c.receive c.remote (.ofBytes p.bytes) = (receipt, { c with incoming }) ∧
        Progress { c with incoming } sequence message (nextCount k i) ∧
        receipt.message? =
          (if k < datagramCount message.size ∧ nextCount k i = datagramCount message.size then
            some message else none) ∧
        (k = datagramCount message.size →
          receipt.verdict = .discarded (.stale sequence sequence)) := by
  cases hprogress with
  | waiting hk hawaits =>
      obtain ⟨receipt, incoming, hreceive, hafter, hdelivered⟩ :=
        hawaits.receive_packet hsendable hmessage hk hp
      refine ⟨receipt, incoming, hreceive, hafter, ?_, fun hdone => absurd hdone hk.ne⟩
      simp only [hk, true_and]
      exact hdelivered
  | complete hsequence =>
      have hmem := List.mem_of_getElem? hp
      have hbound : i < datagramCount message.size := by
        have hlt := (List.getElem?_eq_some_iff.mp hp).1
        rwa [Packet.length_ofMessage] at hlt
      have hsame : nextCount (datagramCount message.size) i = datagramCount message.size :=
        if_neg hbound.ne
      have hstale : Sequence.newer p.header.sequence c.incoming.sequence = false := by
        rw [Packet.sequence_of_mem hmem, hsequence]
        simp [Sequence.newer]
      have hreceive : c.receive c.remote (.ofBytes p.bytes) = _ := Channel.receive_packet
        (by rw [Packet.sequence_of_mem hmem]; exact hsendable) (Packet.qport_of_mem hmem)
        c.recognizes_remote
      rw [hstale, Packet.sequence_of_mem hmem, hsequence] at hreceive
      refine ⟨_, _, hreceive, ?_, ?_, fun _ => rfl⟩
      · rw [hsame]
        exact .complete hsequence
      · rw [if_neg fun hboth => absurd hboth.1 (Nat.lt_irrefl _)]
        rfl

/-- A run of datagrams of the message moves the receiver on by those that come in order, and the
message is delivered when they are all there. -/
theorem Progress.takeIn (hprogress : c.Progress sequence message k)
    (hsendable : Sequence.Sendable sequence) (hmessage : message.size ≤ maxMessageSize)
    {count : Nat} (datagram : Fin count → ByteArray)
    (hsent : ∀ i, ((Packet.ofMessage c.peerStamp sequence message)[i.val]?).map Packet.bytes =
      some (datagram i))
    (numbers : List (Fin count)) :
    ∃ incoming,
      c.takeIn c.remote (numbers.map datagram) =
          (if k < datagramCount message.size ∧
                orderedCount k (numbers.map Fin.val) = datagramCount message.size then
              [message] else [],
            { c with incoming }) ∧
        Progress { c with incoming } sequence message
          (orderedCount k (numbers.map Fin.val)) := by
  induction numbers generalizing c k with
  | nil =>
      refine ⟨c.incoming, ?_, hprogress⟩
      rw [if_neg fun hboth => absurd hboth.2 hboth.1.ne]
      rfl
  | cons i numbers ih =>
      obtain ⟨p, hp, hbytes⟩ := Option.map_eq_some_iff.mp (hsent i)
      obtain ⟨receipt, incoming, hreceive, hafter, hdelivered, -⟩ :=
        hprogress.receive hsendable hmessage hp
      obtain ⟨last, htakeIn, hlast⟩ := ih hafter hsent
      have hstep : orderedCount k ((i :: numbers).map Fin.val) =
          orderedCount (nextCount k i.val) (numbers.map Fin.val) := rfl
      have hgrows := le_nextCount k i.val
      have hrest := le_orderedCount (nextCount k i.val) (numbers.map Fin.val)
      have hbound := hlast.le
      rw [hbytes] at hreceive
      refine ⟨last, ?_, ?_⟩
      · rw [hstep]
        simp only [List.map_cons, Channel.takeIn, hreceive, htakeIn, hdelivered]
        by_cases hdone : nextCount k i.val = datagramCount message.size
        · have hall : orderedCount (datagramCount message.size) (numbers.map Fin.val) =
              datagramCount message.size := by
            rw [hdone] at hbound hrest
            omega
          simp only [hdone, hall, Nat.lt_irrefl, if_false, and_true, List.append_nil]
          split <;> rfl
        · have hmore : nextCount k i.val < datagramCount message.size := by omega
          have hopen : k < datagramCount message.size := by omega
          simp only [hdone, hmore, hopen, true_and, and_false, if_false, Option.toList_none,
            List.nil_append]
      · rw [hstep]
        exact hlast

/-- All datagrams of the message came in their order when none is left to come. -/
theorem Progress.sublist_iff (hprogress : c.Progress sequence message 0)
    (hsendable : Sequence.Sendable sequence) (hmessage : message.size ≤ maxMessageSize)
    {count : Nat} (hcount : count = datagramCount message.size) {datagram : Fin count → ByteArray}
    (hsent : ∀ i, ((Packet.ofMessage c.peerStamp sequence message)[i.val]?).map Packet.bytes =
      some (datagram i))
    (numbers : List (Fin count)) :
    (List.finRange count).Sublist numbers ↔
      orderedCount 0 (numbers.map Fin.val) = datagramCount message.size := by
  obtain ⟨incoming, -, hreached⟩ := hprogress.takeIn hsendable hmessage datagram hsent numbers
  rw [finRange_sublist_iff]
  exact ⟨fun hle => Nat.le_antisymm hreached.le (hcount.ge.trans hle),
    fun heq => (hcount.trans heq.symm).le⟩

end

/-! ## Delivery -/

/-- What leaves for one message. -/
theorem SendsAll.bytes_eq {sender receiver after : Channel} {message : ByteArray}
    {sent : List Dispatch} (hsends : SendsAll sender [message] sent after)
    (hmatch : Matches sender receiver) (hsendable : Sequence.Sendable sender.outgoing.sequence)
    (hidle : sender.isBusy = false) :
    sent.map Dispatch.bytes =
      (Packet.ofMessage receiver.peerStamp sender.outgoing.sequence message).map
        Packet.bytes := by
  obtain ⟨hsending, hdone⟩ := hsends.sending (Aligned.of_idle hsendable hidle) hidle
  rw [hsending.bytes_of_message hidle hdone, hmatch.stamp_eq]

/-- Each dispatch is the packet of the message with its number. -/
theorem SendsAll.getElem?_bytes {sender receiver after : Channel} {message : ByteArray}
    {sent : List Dispatch} (hsends : SendsAll sender [message] sent after)
    (hmatch : Matches sender receiver) (hsendable : Sequence.Sendable sender.outgoing.sequence)
    (hidle : sender.isBusy = false) (i : Fin sent.length) :
    ((Packet.ofMessage receiver.peerStamp sender.outgoing.sequence message)[i.val]?).map
      Packet.bytes = some sent[i].bytes := by
  have hplace := congrArg (·[i.val]?) (hsends.bytes_eq hmatch hsendable hidle)
  simp only [List.getElem?_map, List.getElem?_eq_getElem i.isLt] at hplace
  exact hplace.symm

/-- A message is sent, and any selection of its datagrams arrives in any order, with any losses
and repetitions.  It is delivered exactly when all of its datagrams are a subsequence of what
arrived: once, byte for byte, with the datagram that completes the subsequence.  What comes of it
after that is stale. -/
theorem delivered_iff_subsequence {sender receiver : Channel} (hmatch : Matches sender receiver)
    (hsendable : Sequence.Sendable sender.outgoing.sequence) (hidle : sender.isBusy = false)
    (hnewer : Sequence.newer sender.outgoing.sequence receiver.incoming.sequence = true)
    (hother : receiver.incoming.assembly.sequence? ≠ some sender.outgoing.sequence)
    {message : ByteArray} (hmessage : message.size ≤ maxMessageSize) :
    (∃ sent after, SendsAll sender [message] sent after) ∧
      ∀ sent after, SendsAll sender [message] sent after →
        sent.length = datagramCount message.size ∧
        ∀ arrivals : List (Fin sent.length),
          let whole := List.finRange sent.length
          let c := (receiver.takeIn receiver.remote (arrivals.map fun i => sent[i].bytes)).2
          (receiver.takeIn receiver.remote (arrivals.map fun i => sent[i].bytes)).1 =
              (if whole.Sublist arrivals then [message] else []) ∧
            ∀ i : Fin sent.length,
              let receipt := (c.receive receiver.remote (.ofBytes sent[i].bytes)).1
              receipt.message? =
                  (if whole.Sublist (arrivals ++ [i]) ∧ ¬ whole.Sublist arrivals then
                    some message else none) ∧
                (whole.Sublist arrivals →
                  receipt.verdict = .discarded
                    (.stale sender.outgoing.sequence sender.outgoing.sequence)) := by
  have haligned := Aligned.of_idle hsendable hidle
  refine ⟨exists_sendsAll haligned hidle [message], fun sent after hsends => ?_⟩
  have hbytes := hsends.bytes_eq hmatch hsendable hidle
  have hcount : sent.length = datagramCount message.size := by
    have hlengths := congrArg List.length hbytes
    rwa [List.length_map, List.length_map, Packet.length_ofMessage] at hlengths
  have hsent := hsends.getElem?_bytes hmatch hsendable hidle
  have hstart : receiver.Progress sender.outgoing.sequence message 0 :=
    .waiting (datagramCount_pos _) (.of_other hnewer hother)
  have hwhole := hstart.sublist_iff hsendable hmessage hcount hsent
  refine ⟨hcount, fun arrivals => ?_⟩
  obtain ⟨incoming, htakeIn, hprogress⟩ := hstart.takeIn hsendable hmessage _ hsent arrivals
  rw [htakeIn]
  refine ⟨?_, fun i => ?_⟩
  · simp only [hwhole, datagramCount_pos, true_and]
  · obtain ⟨p, hp, hpacket⟩ := Option.map_eq_some_iff.mp (hsent i)
    obtain ⟨receipt, next, hreceive, -, hdelivered, hstale⟩ :=
      hprogress.receive hsendable hmessage hp
    rw [hpacket] at hreceive
    have hstep : orderedCount 0 ((arrivals ++ [i]).map Fin.val) =
        nextCount (orderedCount 0 (arrivals.map Fin.val)) i.val := by
      rw [List.map_append, orderedCount, List.foldl_append]
      rfl
    have hopen : ¬ orderedCount 0 (arrivals.map Fin.val) = datagramCount message.size ↔
        orderedCount 0 (arrivals.map Fin.val) < datagramCount message.size :=
      ⟨hprogress.le.lt_of_ne, fun hlt => hlt.ne⟩
    simp only [hwhole, hreceive, hstep, hopen]
    refine ⟨?_, hstale⟩
    rw [hdelivered]
    simp only [and_comm]

/-- A server's end that is putting another message together gets the two fragments of a message
in the wrong order, and then in the right one with a repetition. -/
theorem delivered_iff_subsequence_past_another :
    let sender : Channel := ⟨.client, .loopback, 7, false, ⟨5, none⟩, {}⟩
    let receiver : Channel :=
      ⟨.server, .loopback, 7, false, {}, ⟨3, .gathering 4 (Bytes.fill 9 1300), {}⟩⟩
    Matches sender receiver ∧ Sequence.Sendable sender.outgoing.sequence ∧
      sender.isBusy = false ∧
      Sequence.newer sender.outgoing.sequence receiver.incoming.sequence = true ∧
      receiver.incoming.assembly.sequence? ≠ some sender.outgoing.sequence ∧
      (Bytes.fill 1 1400).size ≤ maxMessageSize ∧
      ∃ sent after, SendsAll sender [Bytes.fill 1 1400] sent after ∧
        ∀ first last : Fin sent.length, first.val = 0 → last.val = 1 →
          (receiver.takeIn .loopback ([last, first].map fun i => sent[i].bytes)).1 = [] ∧
            (receiver.takeIn .loopback
              ([last, first, first, last].map fun i => sent[i].bytes)).1 =
                [Bytes.fill 1 1400] := by
  intro sender receiver
  have hsize : (Bytes.fill 1 1400).size = 1400 := Bytes.size_generate 1400 _
  have hends : Matches sender receiver := ⟨rfl, rfl⟩
  have hsendable : Sequence.Sendable sender.outgoing.sequence := by decide
  have hnewer : Sequence.newer sender.outgoing.sequence receiver.incoming.sequence = true := by
    decide
  have hother : receiver.incoming.assembly.sequence? ≠ some sender.outgoing.sequence := by
    decide
  have hmessage : (Bytes.fill 1 1400).size ≤ maxMessageSize := by
    rw [hsize]
    decide
  obtain ⟨⟨sent, after, hsends⟩, hdelivers⟩ :=
    delivered_iff_subsequence hends hsendable rfl hnewer hother hmessage
  obtain ⟨hcount, hrun⟩ := hdelivers sent after hsends
  refine ⟨hends, hsendable, rfl, hnewer, hother, hmessage, sent, after, hsends, ?_⟩
  intro first last hfirst hlast
  rw [hsize] at hcount
  obtain ⟨hnone, -⟩ := hrun [last, first]
  obtain ⟨hsome, -⟩ := hrun [last, first, first, last]
  rw [if_neg] at hnone
  · rw [if_pos] at hsome
    · exact ⟨hnone, hsome⟩
    · rw [finRange_sublist_iff]
      simp only [List.map_cons, List.map_nil, hfirst, hlast, hcount]
      decide
  · rw [finRange_sublist_iff]
    simp only [List.map_cons, List.map_nil, hfirst, hlast, hcount]
    decide

end Channel
end DatagramLink

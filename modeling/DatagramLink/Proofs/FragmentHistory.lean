import Mathlib.Data.List.Induction
import DatagramLink.Proofs.ChannelInvariant

/-!
# Where a message comes from

A channel that is fed datagrams from anywhere delivers only what the run contains: a
message is the payload of the datagram that completes it, or it is spelled by fragments
of the run, one behind the other, all of one sequence and all from the channel's peer.

`Gathers` is the invariant.  The gathered bytes are those of a list of full fragments of
the run; a datagram adds a fragment at the end, leaves the list alone, or starts an empty
one for another sequence.
-/

namespace DatagramLink

/-- A fragment and its place in a run. -/
structure Piece where
  index : Nat
  source : Address
  qport : Option UInt16
  fragment : Fragment
  payload : ByteArray

namespace Piece

def header (p : Piece) (sequence : UInt32) : Header := ⟨sequence, p.qport, some p.fragment⟩

/-- The part of the payload that belongs to the message. -/
def taken (p : Piece) : ByteArray := p.payload.extract 0 p.fragment.length.toNat

def join : List Piece → ByteArray
  | [] => ByteArray.empty
  | p :: rest => p.taken ++ join rest

theorem join_append (ps qs : List Piece) : join (ps ++ qs) = join ps ++ join qs := by
  induction ps with
  | nil => rw [List.nil_append, join, ByteArray.empty_append]
  | cons p rest ih => rw [List.cons_append, join, join, ih, ByteArray.append_assoc]

theorem join_snoc (ps : List Piece) (p : Piece) : join (ps ++ [p]) = join ps ++ p.taken := by
  rw [join_append, join, join, ByteArray.append_empty]

end Piece

namespace Channel

/-- The channel after datagrams from anywhere. -/
def feed (c : Channel) (traffic : List (Address × ByteArray)) : Channel :=
  traffic.foldl (fun c d => (c.receive d.1 (.ofBytes d.2)).2) c

theorem feed_snoc (c : Channel) (traffic : List (Address × ByteArray)) (source : Address)
    (datagram : ByteArray) :
    c.feed (traffic ++ [(source, datagram)]) =
      ((c.feed traffic).receive source (.ofBytes datagram)).2 := by
  rw [feed, List.foldl_append]
  rfl

end Channel

/-- The piece is in the run, with a fragment that is all there, and it got past every
check of its header when it arrived. -/
structure Piece.Arrived (p : Piece) (c : Channel) (traffic : List (Address × ByteArray))
    (sequence : UInt32) : Prop where
  found : ∃ datagram, traffic[p.index]? = some (p.source, datagram) ∧
    (c.feed (traffic.take p.index)).Takes p.source datagram (p.header sequence) p.payload
  legal : p.fragment.Legal p.payload

variable {c : Channel} {traffic : List (Address × ByteArray)} {sequence : UInt32}

namespace Piece

theorem Arrived.lt {p : Piece} (harrived : p.Arrived c traffic sequence) :
    p.index < traffic.length := by
  obtain ⟨datagram, hfound, -⟩ := harrived.found
  exact (List.getElem?_eq_some_iff.mp hfound).1

theorem Arrived.later {p : Piece} (harrived : p.Arrived c traffic sequence)
    (more : List (Address × ByteArray)) :
    p.Arrived c (traffic ++ more) sequence := by
  have hlt := harrived.lt
  obtain ⟨datagram, hfound, htakes⟩ := harrived.found
  refine ⟨⟨datagram, ?_, ?_⟩, harrived.legal⟩
  · rw [List.getElem?_append_left hlt]
    exact hfound
  · rw [List.take_append_of_le_length (Nat.le_of_lt hlt)]
    exact htakes

/-- The fragment that the last datagram of a run carries. -/
def last (traffic : List (Address × ByteArray)) (source : Address) (header : Header)
    (f : Fragment) (payload : ByteArray) : Piece :=
  ⟨traffic.length, source, header.qport, f, payload⟩

theorem arrived_last {source : Address} {datagram : ByteArray} {header : Header}
    {f : Fragment} {payload : ByteArray}
    (htakes : (c.feed traffic).Takes source datagram header payload)
    (hfragment : header.fragment = some f) (hlegal : f.Legal payload) :
    (last traffic source header f payload).Arrived c
      (traffic ++ [(source, datagram)]) header.sequence := by
  have hheader : (last traffic source header f payload).header header.sequence =
      header := by
    rw [Piece.header, last, ← hfragment]
  refine ⟨⟨datagram, ?_, ?_⟩, hlegal⟩
  · rw [last, List.getElem?_append_right (Nat.le_refl _), Nat.sub_self]
    rfl
  · rw [hheader, last, List.take_left]
    exact htakes

end Piece

/-! ## What is gathered -/

/-- Fragments of one sequence, in the order in which they arrived, each where the one
before it ends. -/
structure Piece.Chain (c : Channel) (traffic : List (Address × ByteArray))
    (sequence : UInt32) (ps : List Piece) : Prop where
  ordered : ps.Pairwise fun p q => p.index < q.index
  arrived : ∀ p ∈ ps, p.Arrived c traffic sequence
  starts : ∀ j p, ps[j]? = some p → p.fragment.start.toNat = fragmentSize * j % 2 ^ 16

/-- The bytes are those of full fragments of the run. -/
structure Gathers (c : Channel) (traffic : List (Address × ByteArray)) (sequence : UInt32)
    (bytes : ByteArray) (ps : List Piece) : Prop where
  chain : Piece.Chain c traffic sequence ps
  full : ∀ p ∈ ps, p.fragment.length.toNat = fragmentSize
  bytes : bytes = Piece.join ps

theorem Piece.Arrived.size_taken {p : Piece} (harrived : p.Arrived c traffic sequence) :
    p.taken.size = p.fragment.length.toNat := by
  have hthere := harrived.legal.2
  rw [Piece.taken, ByteArray.size_extract]
  omega

namespace Gathers

variable {bytes : ByteArray} {ps : List Piece}

theorem nil (c : Channel) (traffic : List (Address × ByteArray)) (sequence : UInt32) :
    Gathers c traffic sequence ByteArray.empty [] where
  chain := ⟨List.Pairwise.nil, by simp, by simp⟩
  full := by simp
  bytes := rfl

theorem later (hgathers : Gathers c traffic sequence bytes ps)
    (more : List (Address × ByteArray)) :
    Gathers c (traffic ++ more) sequence bytes ps where
  chain :=
    { ordered := hgathers.chain.ordered
      arrived := fun p hp => (hgathers.chain.arrived p hp).later more
      starts := hgathers.chain.starts }
  full := hgathers.full
  bytes := hgathers.bytes

theorem size_eq (hgathers : Gathers c traffic sequence bytes ps) :
    bytes.size = fragmentSize * ps.length := by
  obtain ⟨hchain, hfull, rfl⟩ := hgathers
  have harrived := hchain.arrived
  clear hchain
  induction ps with
  | nil => rfl
  | cons p rest ih =>
      have hsize := (harrived p List.mem_cons_self).size_taken
      have hlength := hfull p List.mem_cons_self
      have hrest := ih (fun q hq => hfull q (List.mem_cons_of_mem _ hq))
        (fun q hq => harrived q (List.mem_cons_of_mem _ hq))
      rw [Piece.join, ByteArray.size_append, hsize, hlength, hrest, List.length_cons,
        Nat.mul_add, Nat.mul_one, Nat.add_comm]

/-- A fragment that continues the gathered bytes goes to the end of the chain. -/
theorem chain_snoc {source : Address} {datagram : ByteArray} {header : Header}
    {f : Fragment} {payload : ByteArray}
    (hgathers : Gathers c traffic header.sequence bytes ps)
    (htakes : (c.feed traffic).Takes source datagram header payload)
    (hfragment : header.fragment = some f) (hlegal : f.Legal payload)
    (hcontinues : f.Continues bytes) :
    Piece.Chain c (traffic ++ [(source, datagram)]) header.sequence
      (ps ++ [Piece.last traffic source header f payload]) where
  ordered := by
    rw [List.pairwise_append]
    refine ⟨hgathers.chain.ordered, List.pairwise_singleton _ _, ?_⟩
    intro p hp q hq
    rw [List.mem_singleton.mp hq]
    exact (hgathers.chain.arrived p hp).lt
  arrived := by
    intro p hp
    rcases List.mem_append.mp hp with hold | hnew
    · exact (hgathers.chain.arrived p hold).later _
    · rw [List.mem_singleton.mp hnew]
      exact Piece.arrived_last htakes hfragment hlegal
  starts := by
    intro j p hp
    by_cases hold : j < ps.length
    · rw [List.getElem?_append_left hold] at hp
      exact hgathers.chain.starts j p hp
    · have hj : j = ps.length := by
        have hbound := (List.getElem?_eq_some_iff.mp hp).1
        rw [List.length_append, List.length_singleton] at hbound
        omega
      subst hj
      rw [List.getElem?_append_right (Nat.le_refl _), Nat.sub_self] at hp
      cases hp
      change f.start.toNat = _
      rw [hcontinues.1, UInt16.toNat_ofNat', hgathers.size_eq]

end Gathers

/-- Whatever a channel has gathered comes from the run. -/
def Channel.Accounted (c : Channel) (traffic : List (Address × ByteArray)) : Prop :=
  ∀ sequence, ∃ ps, Gathers c traffic sequence ((c.feed traffic).gathered sequence) ps

namespace Channel

theorem gathered_gathering (d : Channel) (sequence other : UInt32) (bytes : ByteArray)
    (tally : Tally) :
    (d.gathering sequence bytes tally).gathered other =
      if sequence = other then bytes else ByteArray.empty := by
  simp only [gathered, gathering, Assembly.sequence?, Assembly.bytes, Option.some.injEq]

theorem Accounted.snoc (haccounted : c.Accounted traffic) (source : Address)
    (datagram : ByteArray) :
    c.Accounted (traffic ++ [(source, datagram)]) := by
  intro sequence
  obtain ⟨verdict, message?, after, -, -, hafter, hreceives⟩ :=
    (c.feed traffic).receives source datagram
  rw [feed_snoc, hafter]
  obtain ⟨ps, hgathers⟩ := haccounted sequence
  have hlater := hgathers.later [(source, datagram)]
  cases hreceives with
  | ignored hconnectionless => exact ⟨ps, hlater⟩
  | dropped hsequenced hdrops => exact ⟨ps, hlater⟩
  | whole htakes hwhole =>
      rw [gathered_of_idle rfl]
      exact ⟨[], .nil c _ sequence⟩
  | completed htakes hfragment hlegal hcontinues hlast =>
      rw [gathered_of_idle rfl]
      exact ⟨[], .nil c _ sequence⟩
  | @misplaced header payload f htakes hfragment hlegal hmisplaced =>
      rw [gathered_gathering]
      by_cases hsame : header.sequence = sequence
      · rw [if_pos hsame, hsame]
        exact ⟨ps, hlater⟩
      · rw [if_neg hsame]
        exact ⟨[], .nil c _ sequence⟩
  | @added header payload f htakes hfragment hlegal hcontinues hmore =>
      rw [gathered_gathering]
      by_cases hsame : header.sequence = sequence
      · subst sequence
        rw [if_pos rfl]
        refine ⟨_, hgathers.chain_snoc htakes hfragment hlegal hcontinues, ?_, ?_⟩
        · intro p hp
          rcases List.mem_append.mp hp with hold | hnew
          · exact hgathers.full p hold
          · rw [List.mem_singleton.mp hnew]
            exact (hlegal.size_eq hmore).1
        · rw [Piece.join_snoc, ← hgathers.bytes]
          rfl
      · rw [if_neg hsame]
        exact ⟨[], .nil c _ sequence⟩

theorem accounted_feed (hidle : c.incoming.assembly = .idle)
    (traffic : List (Address × ByteArray)) :
    c.Accounted traffic := by
  induction traffic using List.reverseRecOn with
  | nil =>
      intro sequence
      refine ⟨[], ?_⟩
      rw [feed, List.foldl_nil, gathered_of_idle hidle]
      exact .nil c [] sequence
  | append_singleton traffic last ih => exact ih.snoc last.1 last.2

/-! ## What is delivered -/

/-- The message is spelled by full fragments of the run and one that is not full, with
which the run ends. -/
structure Assembled (c : Channel) (traffic : List (Address × ByteArray))
    (sequence : UInt32) (full : List Piece) (last : Piece) (message : ByteArray) : Prop where
  chain : Piece.Chain c traffic sequence (full ++ [last])
  current : last.index + 1 = traffic.length
  lengths : ∀ p ∈ full, p.fragment.length.toNat = fragmentSize
  short : last.fragment.length.toNat < fragmentSize
  bytes : message = Piece.join (full ++ [last])
  size : message.size ≤ maxMessageSize

/-- A datagram of no channel, from anywhere, does not come between two that are
expected. -/
theorem Expects.message_past_stranger {c : Channel} {p q : Packet}
    (hexpects : c.Expects [p, q]) (stranger : Address) (payload : ByteArray) :
    ((c.feed [(c.remote, p.bytes), (stranger, connectionless payload)]).receive c.remote
      (.ofBytes q.bytes)).1.message? = q.completes := by
  obtain ⟨receipt, incoming, hfirst, -, -, hrest⟩ := hexpects.receive
  obtain ⟨receipt', incoming', hsecond, hmessage, -, -⟩ := hrest.receive
  have hignored : ∀ d : Channel,
      (d.receive stranger (.ofBytes (connectionless payload))).2 = d := by
    intro d
    rw [Channel.receive]
    exact congrArg Prod.snd (if_pos (Header.isConnectionless_connectionless payload))
  have hfeed : c.feed [(c.remote, p.bytes), (stranger, connectionless payload)] =
      { c with incoming } := by
    simp only [feed, List.foldl_cons, List.foldl_nil, hignored, hfirst]
  rw [hfeed, ← hmessage]
  exact congrArg (fun outcome => outcome.1.message?) hsecond

/-- Every message that a fresh channel delivers, whatever it is fed, is the payload of the
last datagram or is assembled from the run. -/
theorem delivered_from_run (side : Side) (remote : Address) (qport : UInt16)
    (showDrops : Bool) (traffic : List (Address × ByteArray)) (source : Address)
    (datagram message : ByteArray)
    (hdelivered : (((setup side remote qport showDrops).feed traffic).receive source
      (.ofBytes datagram)).1.message? = some message) :
    (∃ header, header.fragment = none ∧
        ((setup side remote qport showDrops).feed traffic).Takes source datagram header
          message) ∨
      ∃ sequence full last,
        Assembled (setup side remote qport showDrops) (traffic ++ [(source, datagram)])
          sequence full last message := by
  have haccounted := accounted_feed (c := setup side remote qport showDrops) rfl traffic
  generalize setup side remote qport showDrops = c at *
  obtain ⟨verdict, message?, after, -, hmessage, -, hreceives⟩ :=
    (c.feed traffic).receives source datagram
  rw [hdelivered] at hmessage
  subst hmessage
  cases hreceives with
  | whole htakes hwhole => exact Or.inl ⟨_, hwhole, htakes⟩
  | @completed header payload f htakes hfragment hlegal hcontinues hlast =>
      obtain ⟨ps, hgathers⟩ := haccounted header.sequence
      have hchain := hgathers.chain_snoc htakes hfragment hlegal hcontinues
      have hsize := (Piece.arrived_last htakes hfragment hlegal).size_taken
      refine Or.inr ⟨header.sequence, ps, _, hchain, ?_, hgathers.full, ?_, ?_, ?_⟩
      · rw [List.length_append, List.length_singleton]
        rfl
      · exact of_decide_eq_true hlast
      · rw [Piece.join_snoc, ← hgathers.bytes]
        rfl
      · rw [ByteArray.size_append]
        exact (Nat.add_le_add_left (Nat.le_of_eq hsize) _).trans hcontinues.2

/-- A message of two fragments, with a datagram of no channel between them. -/
theorem delivered_from_run_of_two_fragments :
    (((setup .server .loopback 7 false).feed
        [(.loopback, (Packet.fragment (some 7) 1 ⟨Bytes.fill 1 1400, 0⟩).bytes),
          (.unspecified, connectionless ByteArray.empty)]).receive .loopback
      (.ofBytes (Packet.fragment (some 7) 1 ⟨Bytes.fill 1 1400, 1300⟩).bytes)).1.message? =
        some (Bytes.fill 1 1400) ∧
      ((∃ header, header.fragment = none ∧
          ((setup .server .loopback 7 false).feed
            [(.loopback, (Packet.fragment (some 7) 1 ⟨Bytes.fill 1 1400, 0⟩).bytes),
              (.unspecified, connectionless ByteArray.empty)]).Takes .loopback
            (Packet.fragment (some 7) 1 ⟨Bytes.fill 1 1400, 1300⟩).bytes header
            (Bytes.fill 1 1400)) ∨
        ∃ sequence full last,
          Assembled (setup .server .loopback 7 false)
            ([(.loopback, (Packet.fragment (some 7) 1 ⟨Bytes.fill 1 1400, 0⟩).bytes),
                (.unspecified, connectionless ByteArray.empty)] ++
              [(.loopback, (Packet.fragment (some 7) 1 ⟨Bytes.fill 1 1400, 1300⟩).bytes)])
            sequence full last (Bytes.fill 1 1400)) := by
  have hsize : (Bytes.fill 1 1400).size = 1400 := Bytes.size_generate 1400 _
  have hstart : (setup .server .loopback 7 false).Expects
      [Packet.fragment (some 7) 1 ⟨Bytes.fill 1 1400, 0⟩,
        Packet.fragment (some 7) 1 ⟨Bytes.fill 1 1400, 1300⟩] := by
    refine .idle [Bytes.fill 1 1400] (Or.inl rfl) rfl ?_ ?_
    · intro message hmessage
      rw [List.mem_singleton.mp hmessage, hsize]
      decide
    · simp only [Packet.stream, Packet.ofMessage, Packet.fragments, hsize]
      rfl
  have hone : 1 ≤ (Bytes.fill 1 1400).size / fragmentSize := by
    rw [hsize]
    decide
  have hcompletes := Packet.completes_fragment hone (some 7) 1
  rw [hsize, if_pos (by decide), show fragmentSize * 1 = 1300 from rfl] at hcompletes
  have hdelivered : (((setup .server .loopback 7 false).feed
        [(.loopback, (Packet.fragment (some 7) 1 ⟨Bytes.fill 1 1400, 0⟩).bytes),
          (.unspecified, connectionless ByteArray.empty)]).receive .loopback
      (.ofBytes (Packet.fragment (some 7) 1 ⟨Bytes.fill 1 1400, 1300⟩).bytes)).1.message? =
        some (Bytes.fill 1 1400) :=
    (hstart.message_past_stranger .unspecified ByteArray.empty).trans hcompletes
  exact ⟨hdelivered, delivered_from_run _ _ _ _ _ _ _ _ hdelivered⟩

end Channel
end DatagramLink

import Mathlib.Data.List.Pairwise
import DatagramLink.Server
import DatagramLink.Proofs.ChannelFrame

/-!
# The table of clients

A client is known by its identifier, by its qport and by its host.  No datagram, no
message and no time changes these: a channel follows its client to another port but never
to another host.  So the operations on a table only ever keep, drop or add such
identities, and `Roster.Sound` is about the list of them.
-/

namespace DatagramLink

open Std.Net

/-! ## Identities -/

/-- What a server knows a client by. -/
structure Identity where
  id : Nat
  side : Side
  qport : UInt16
  host : Option IPAddr

/-- Two clients that no datagram can be taken from one for the other. -/
def Identity.Apart (i j : Identity) : Prop := ¬ (i.qport = j.qport ∧ i.host = j.host)

namespace Peer

def identity (p : Peer) : Identity :=
  ⟨p.id, p.channel.side, p.channel.qport, p.channel.remote.host?⟩

theorem owns_iff (p : Peer) (source : Address) (qport : UInt16) :
    p.owns source qport = true ↔
      p.identity.qport = qport ∧ p.identity.host = source.host? := by
  simp only [owns, Bool.and_eq_true, beq_iff_eq, Address.sameHost_iff]
  rfl

theorem identity_receive (p : Peer) (source : Address) (datagram : ByteArray)
    (now : Instant) :
    (p.receive source datagram now).2.identity = p.identity := by
  obtain ⟨hside, hqport, hhost, -⟩ := p.channel.receive_keeps source datagram
  have hchannel : (p.receive source datagram now).2.channel =
      (p.channel.receive source (.ofBytes datagram)).2 := by
    simp only [receive]
    split <;> rfl
  have hid : (p.receive source datagram now).2.id = p.id := by
    simp only [receive]
    split <;> rfl
  rw [identity, hchannel, hside, hqport, hhost, hid]
  rfl

theorem identity_enqueue (p : Peer) (message : ByteArray) :
    (p.enqueue message).2.identity = p.identity := rfl

theorem identity_pump (p : Peer) (h : Hub) (budget : Nat) (now : Instant) :
    (p.pump h budget now).reached.1.identity = p.identity := by
  obtain ⟨outgoing, hframe⟩ := p.channel.frame_ship h p.queue budget now
  simp only [pump, Attempt.map, identity, hframe]

end Peer

/-! ## Sound tables -/

namespace Roster

/-- A table whose entries can be told apart, by their identifiers as by what they own. -/
structure Sound (r : Roster) : Prop where
  within : r.length ≤ r.capacity
  first : 1 ≤ r.nextId
  issued : ∀ i ∈ r.peers.map Peer.identity, 1 ≤ i.id ∧ i.id < r.nextId ∧ i.side = .server
  apart : (r.peers.map Peer.identity).Pairwise fun i j => i.id ≠ j.id ∧ i.Apart j

variable {r : Roster}

theorem Sound.of_sublist {r' : Roster} (hsound : r.Sound)
    (hcapacity : r'.capacity = r.capacity) (hnext : r'.nextId = r.nextId)
    (hkept : (r'.peers.map Peer.identity).Sublist (r.peers.map Peer.identity)) :
    r'.Sound where
  within := by
    have hlength := hkept.length_le
    have hwithin := hsound.within
    simp only [List.length_map] at hlength
    simp only [length, hcapacity] at *
    omega
  first := by
    rw [hnext]
    exact hsound.first
  issued := by
    intro i hi
    rw [hnext]
    exact hsound.issued i (hkept.subset hi)
  apart := hsound.apart.sublist hkept

theorem sound_empty (capacity : Nat) : Sound { capacity } where
  within := Nat.zero_le _
  first := Nat.le_refl _
  issued := by simp
  apart := List.Pairwise.nil

theorem Sound.pairwise (hsound : r.Sound) :
    r.peers.Pairwise fun p q => p.id ≠ q.id ∧ p.identity.Apart q.identity :=
  List.pairwise_map.mp hsound.apart

/-- Entries can be told apart in any order. -/
theorem Sound.perm (hsound : r.Sound) {peers : List Peer} (hperm : peers.Perm r.peers) :
    Sound { r with peers } where
  within := by
    rw [length, hperm.length_eq]
    exact hsound.within
  first := hsound.first
  issued := fun i hi => hsound.issued i ((hperm.map Peer.identity).mem_iff.mp hi)
  apart := by
    refine (List.Perm.pairwise_iff ?_ (hperm.map Peer.identity)).mpr hsound.apart
    exact fun hij => ⟨hij.1.symm, fun hsame => hij.2 ⟨hsame.1.symm, hsame.2.symm⟩⟩

/-- Any client at an address may be the one that is met there first. -/
theorem exists_perm_findAt? {p : Peer} (hp : p ∈ r.peers) :
    ∃ peers : List Peer, peers.Perm r.peers ∧
      findAt? { r with peers } p.channel.remote = some p := by
  obtain ⟨before, behind, hsplit⟩ := List.append_of_mem hp
  refine ⟨p :: (before ++ behind), ?_, ?_⟩
  · rw [hsplit]
    exact List.perm_middle.symm
  · exact List.find?_cons_of_pos (beq_self_eq_true _)

theorem Sound.apart_of_ne (hsound : r.Sound) {p q : Peer} (hp : p ∈ r.peers)
    (hq : q ∈ r.peers) (hne : p ≠ q) :
    p.id ≠ q.id ∧ p.identity.Apart q.identity := by
  have hsymm : Std.Symm fun p q : Peer => p.id ≠ q.id ∧ p.identity.Apart q.identity :=
    ⟨fun _ _ h => ⟨h.1.symm, fun hsame => h.2 ⟨hsame.1.symm, hsame.2.symm⟩⟩⟩
  exact hsound.pairwise.forall hp hq hne

theorem Sound.eq_of_id (hsound : r.Sound) {p q : Peer} (hp : p ∈ r.peers)
    (hq : q ∈ r.peers) (hid : p.id = q.id) :
    p = q := by
  by_contra hne
  exact (hsound.apart_of_ne hp hq hne).1 hid

/-- A datagram has at most one owner. -/
theorem Sound.eq_of_owns (hsound : r.Sound) {p q : Peer} (hp : p ∈ r.peers)
    (hq : q ∈ r.peers) {source : Address} {qport : UInt16}
    (hpowns : p.owns source qport = true) (hqowns : q.owns source qport = true) :
    p = q := by
  by_contra hne
  rw [Peer.owns_iff] at hpowns hqowns
  apply (hsound.apart_of_ne hp hq hne).2
  exact ⟨hpowns.1.trans hqowns.1.symm, hpowns.2.trans hqowns.2.symm⟩

theorem Sound.length_owners_le (hsound : r.Sound) (source : Address) (qport : UInt16) :
    (r.peers.filter (·.owns source qport)).length ≤ 1 := by
  have hpairwise := hsound.pairwise.filter (·.owns source qport)
  have howns : ∀ p ∈ r.peers.filter (·.owns source qport),
      p ∈ r.peers ∧ p.owns source qport = true :=
    fun p hp => List.mem_filter.mp hp
  cases howners : r.peers.filter (·.owns source qport) with
  | nil => exact Nat.zero_le _
  | cons p rest =>
      rw [howners] at hpairwise howns
      cases rest with
      | nil => exact Nat.le_refl _
      | cons q rest =>
          obtain ⟨hp, hpowns⟩ := howns p (by simp)
          obtain ⟨hq, hqowns⟩ := howns q (by simp)
          have hne := ((List.pairwise_cons.mp hpairwise).1 q (by simp)).1
          exact absurd (congrArg Peer.id (hsound.eq_of_owns hp hq hpowns hqowns)) hne

/-! ## Operations -/

theorem modifyFirst_of_none {α : Type} {test : Peer → Bool} {peers : List Peer}
    (hnone : ∀ p ∈ peers, test p = false) (step : Peer → α × Peer) :
    modifyFirst test step peers = (none, peers) := by
  induction peers with
  | nil => rfl
  | cons p rest ih =>
      have hp := hnone p List.mem_cons_self
      have hrest := ih fun q hq => hnone q (List.mem_cons_of_mem _ hq)
      simp only [modifyFirst, hp, hrest, Bool.false_eq_true, if_false]

theorem modifyFirst_append {α : Type} {test : Peer → Bool} {before after : List Peer}
    {p : Peer} (hbefore : ∀ q ∈ before, test q = false) (hp : test p = true)
    (step : Peer → α × Peer) :
    modifyFirst test step (before ++ p :: after) =
      (some (step p).1, before ++ (step p).2 :: after) := by
  induction before with
  | nil => simp only [List.nil_append, modifyFirst, hp, if_true]
  | cons q rest ih =>
      have hq := hbefore q List.mem_cons_self
      have hrest := ih fun q hq => hbefore q (List.mem_cons_of_mem _ hq)
      simp only [List.cons_append, modifyFirst, hq, hrest, Bool.false_eq_true, if_false]

section
variable {before after : List Peer} {p : Peer}

/-- No other entry has the identifier of one that is in the table. -/
theorem Sound.id_ne (hsound : r.Sound) (hpeers : r.peers = before ++ p :: after) :
    (∀ q ∈ before, q.id ≠ p.id) ∧ ∀ q ∈ after, q.id ≠ p.id := by
  have hpairwise := hsound.pairwise
  rw [hpeers, List.pairwise_append, List.pairwise_cons] at hpairwise
  obtain ⟨-, ⟨hafter, -⟩, hbefore⟩ := hpairwise
  constructor
  · intro q hq
    exact (hbefore q hq p List.mem_cons_self).1
  · intro q hq
    exact (hafter q hq).1.symm

/-- Only one entry owns a datagram. -/
theorem Sound.not_owns_others (hsound : r.Sound) (hpeers : r.peers = before ++ p :: after)
    {source : Address} {qport : UInt16} (howns : p.owns source qport = true) :
    ∀ q ∈ before ++ after, q.owns source qport = false := by
  obtain ⟨hbefore, hafter⟩ := hsound.id_ne hpeers
  intro q hq
  have hne : q.id ≠ p.id := (List.mem_append.mp hq).elim (hbefore q) (hafter q)
  rw [Bool.eq_false_iff]
  intro hq'
  refine hne (congrArg Peer.id (hsound.eq_of_owns ?_ ?_ hq' howns))
  · rw [hpeers]
    exact ((List.sublist_cons_self p after).append_left before).subset hq
  · rw [hpeers]
    exact List.mem_append_right _ List.mem_cons_self

theorem Sound.remove_eq (hsound : r.Sound) (hpeers : r.peers = before ++ p :: after) :
    (r.remove p.id).2 = { r with peers := before ++ after } := by
  obtain ⟨hbefore, hafter⟩ := hsound.id_ne hpeers
  have hkept : ∀ {peers : List Peer}, (∀ q ∈ peers, q.id ≠ p.id) →
      peers.filter (·.id != p.id) = peers := by
    intro peers hne
    apply List.filter_eq_self.mpr
    intro q hq
    exact bne_iff_ne.mpr (hne q hq)
  have hfilter : r.peers.filter (·.id != p.id) = before ++ after := by
    rw [hpeers, List.filter_append, List.filter_cons_of_neg (by simp), hkept hbefore,
      hkept hafter]
  rw [remove, hfilter]

theorem Sound.modify_id (hsound : r.Sound) (hpeers : r.peers = before ++ p :: after)
    {α : Type} (step : Peer → α × Peer) :
    r.modify (·.id == p.id) step =
      (some (step p).1, { r with peers := before ++ (step p).2 :: after }) := by
  obtain ⟨hbefore, -⟩ := hsound.id_ne hpeers
  have hfirst : ∀ q ∈ before, (q.id == p.id) = false :=
    fun q hq => beq_eq_false_iff_ne.mpr (hbefore q hq)
  rw [modify, hpeers, modifyFirst_append hfirst (beq_self_eq_true p.id)]

/-- An entry changes, but not what it is known by. -/
theorem Sound.replace (hsound : r.Sound) (hpeers : r.peers = before ++ p :: after)
    {q : Peer} (hidentity : q.identity = p.identity) :
    Sound { r with peers := before ++ q :: after } := by
  refine hsound.of_sublist rfl rfl ?_
  rw [hpeers]
  simp only [List.map_append, List.map_cons, hidentity]
  exact List.Sublist.refl _

theorem Sound.drop (hsound : r.Sound) (hpeers : r.peers = before ++ p :: after) :
    Sound { r with peers := before ++ after } := by
  refine hsound.of_sublist rfl rfl (List.Sublist.map _ ?_)
  rw [hpeers]
  exact (List.sublist_cons_self p after).append_left before

end

theorem Sound.filter (hsound : r.Sound) (kept : Peer → Bool) :
    Sound { r with peers := r.peers.filter kept } :=
  hsound.of_sublist rfl rfl (List.filter_sublist.map _)

theorem filter_not_owns {source : Address} {qport : UInt16}
    (hfree : ∀ p ∈ r.peers, p.owns source qport = false) :
    r.peers.filter (!·.owns source qport) = r.peers := by
  apply List.filter_eq_self.mpr
  intro p hp
  rw [hfree p hp]
  rfl

/-- The one entry that stands in the way of a new connection is dropped. -/
theorem Sound.dropExisting_eq (hsound : r.Sound) (source : Address) (qport : UInt16) :
    (Server.dropExisting r source qport).2 =
      { r with peers := r.peers.filter (!·.owns source qport) } := by
  unfold Server.dropExisting
  cases hfind : r.find? source qport with
  | none =>
      have hfree : ∀ q ∈ r.peers, q.owns source qport = false := by
        intro q hq
        simpa using List.find?_eq_none.mp hfind q hq
      rw [filter_not_owns hfree]
  | some p =>
      have howns := List.find?_some hfind
      have hmem := List.mem_of_find?_eq_some hfind
      have hfilter : r.peers.filter (·.id != p.id) =
          r.peers.filter (!·.owns source qport) := by
        apply List.filter_congr
        intro q hq
        rw [Bool.eq_iff_iff, bne_iff_ne, Bool.not_eq_true', ← Bool.not_eq_true]
        apply not_congr
        constructor
        · intro hid
          rw [hsound.eq_of_id hq hmem hid]
          exact howns
        · intro hq'
          rw [hsound.eq_of_owns hq hmem hq' howns]
      simp only [remove, hfilter]

/-- A request for a connection makes room for itself, unless nobody owns it and the table is
full. -/
theorem Sound.full_iff (hsound : r.Sound) (source : Address) (qport : UInt16) :
    r.capacity ≤ (r.peers.filter (!·.owns source qport)).length ↔
      (∀ p ∈ r.peers, p.owns source qport = false) ∧ r.capacity ≤ r.length := by
  constructor
  · intro hfull
    have hkept : r.peers.filter (!·.owns source qport) = r.peers :=
      List.filter_sublist.eq_of_length
        (Nat.le_antisymm List.filter_sublist.length_le (Nat.le_trans hsound.within hfull))
    refine ⟨fun p hp => ?_, ?_⟩
    · simpa using List.filter_eq_self.mp hkept p hp
    · rw [hkept] at hfull
      exact hfull
  · rintro ⟨hfree, hfull⟩
    rw [filter_not_owns hfree]
    exact hfull

/-- A new client, as it enters the table. -/
def newcomer (r : Roster) (source : Address) (qport : UInt16) (showDrops : Bool)
    (now : Instant) : Peer :=
  { id := r.nextId, channel := newChannel source qport showDrops, lastSeen := now }

theorem add_of_full (hfull : r.capacity ≤ r.length) (source : Address) (qport : UInt16)
    (showDrops : Bool) (now : Instant) :
    r.add source qport showDrops now = (none, r) :=
  if_pos hfull

theorem add_of_room (hroom : r.length < r.capacity) (source : Address) (qport : UInt16)
    (showDrops : Bool) (now : Instant) :
    ∃ record, r.add source qport showDrops now =
      (some (r.nextId, record),
        { r with
          peers := r.peers ++ [r.newcomer source qport showDrops now]
          nextId := r.nextId + 1 }) :=
  ⟨_, if_neg (Nat.not_le.mpr hroom)⟩

theorem Sound.snoc (hsound : r.Sound) (hroom : r.length < r.capacity) {source : Address}
    {qport : UInt16} (hfree : ∀ p ∈ r.peers, p.owns source qport = false)
    (showDrops : Bool) (now : Instant) :
    Sound { r with
      peers := r.peers ++ [r.newcomer source qport showDrops now]
      nextId := r.nextId + 1 } where
  within := by
    simp only [length, List.length_append, List.length_singleton]
    exact hroom
  first := Nat.le_add_left 1 _
  issued := by
    intro i hi
    rw [List.map_append, List.mem_append] at hi
    rcases hi with hold | hnew
    · obtain ⟨hfirst, hless, hside⟩ := hsound.issued i hold
      exact ⟨hfirst, Nat.lt_succ_of_lt hless, hside⟩
    · rw [List.mem_singleton.mp hnew]
      exact ⟨hsound.first, Nat.lt_succ_self _, rfl⟩
  apart := by
    rw [List.map_append, List.pairwise_append]
    refine ⟨hsound.apart, List.pairwise_singleton _ _, ?_⟩
    intro i hi j hj
    obtain ⟨p, hp, rfl⟩ := List.mem_map.mp hi
    rw [List.mem_singleton.mp hj]
    refine ⟨Nat.ne_of_lt (hsound.issued _ hi).2.1, fun hsame => ?_⟩
    have howns := (p.owns_iff source qport).mpr hsame
    rw [hfree p hp] at howns
    cases howns

/-! ## Lookups -/

/-- Identifiers find exactly the entries that carry them. -/
theorem Sound.get?_eq_some_iff (hsound : r.Sound) (id : Nat) (p : Peer) :
    r.get? id = some p ↔ p ∈ r.peers ∧ p.id = id := by
  constructor
  · intro hget
    have hid : (p.id == id) = true :=
      List.find?_some (p := fun q : Peer => q.id == id) hget
    exact ⟨List.mem_of_find?_eq_some hget, beq_iff_eq.mp hid⟩
  · rintro ⟨hmem, hid⟩
    cases hget : r.get? id with
    | none =>
        have hnot := List.find?_eq_none.mp hget p hmem
        simp [hid] at hnot
    | some q =>
        have hq := List.mem_of_find?_eq_some hget
        have hqid := beq_iff_eq.mp (List.find?_some (p := fun q : Peer => q.id == id) hget)
        rw [hsound.eq_of_id hq hmem (hqid.trans hid.symm)]

/-- A search for what is there at most once does not depend on the order of a list. -/
theorem find?_eq_of_perm {α : Type} {test : α → Bool} {xs ys : List α} (hperm : xs.Perm ys)
    (hone : ∀ x ∈ ys, ∀ y ∈ ys, test x = true → test y = true → x = y) :
    xs.find? test = ys.find? test := by
  cases hfind : ys.find? test with
  | none =>
      apply List.find?_eq_none.mpr
      intro x hx
      exact List.find?_eq_none.mp hfind x (hperm.mem_iff.mp hx)
  | some y =>
      have hy := List.mem_of_find?_eq_some hfind
      have htest := List.find?_some hfind
      cases hother : xs.find? test with
      | none => exact absurd htest (List.find?_eq_none.mp hother y (hperm.mem_iff.mpr hy))
      | some x =>
          have hx := hperm.mem_iff.mp (List.mem_of_find?_eq_some hother)
          rw [hone x hx y hy (List.find?_some hother) htest]

/-- The owner of a datagram does not depend on the order of the table. -/
theorem Sound.find?_perm (hsound : r.Sound) {peers : List Peer}
    (hperm : peers.Perm r.peers) (source : Address) (qport : UInt16) :
    peers.find? (·.owns source qport) = r.find? source qport :=
  find?_eq_of_perm hperm fun _ hp _ hq => hsound.eq_of_owns hp hq

/-- The bearer of an identifier does not depend on the order of the table. -/
theorem Sound.get?_perm (hsound : r.Sound) {peers : List Peer} (hperm : peers.Perm r.peers)
    (id : Nat) :
    peers.find? (·.id == id) = r.get? id := by
  refine find?_eq_of_perm hperm fun p hp q hq hpid hqid => ?_
  exact hsound.eq_of_id hp hq ((beq_iff_eq.mp hpid).trans (beq_iff_eq.mp hqid).symm)

/-! ## Shares -/

theorem identity_pumpPeers (budget : Nat) (now : Instant) (peers : List Peer) (h : Hub) :
    (pumpPeers budget now peers h).reached.1.map Peer.identity =
      peers.map Peer.identity := by
  induction peers generalizing h with
  | nil => rfl
  | cons p rest ih =>
      have hidentity := p.identity_pump h budget now
      unfold pumpPeers
      split
      · next q reached fault heq =>
          rw [heq] at hidentity
          simp only [Attempt.stopped, List.map_cons]
          exact congrArg (· :: rest.map Peer.identity) hidentity
      · next q reached heq =>
          rw [heq] at hidentity
          simp only [Attempt.map, List.map_cons, ih]
          exact congrArg (· :: rest.map Peer.identity) hidentity

/-- Whoever is in the table after the shares was there before, and had its turn or not. -/
theorem mem_pumpPeers {budget : Nat} {now : Instant} {peers : List Peer} {h : Hub} {q : Peer}
    (hq : q ∈ (pumpPeers budget now peers h).reached.1) :
    ∃ p ∈ peers, q = p ∨ ∃ g, q = (p.pump g budget now).reached.1 := by
  induction peers generalizing h with
  | nil => cases hq
  | cons p rest ih =>
      unfold pumpPeers at hq
      split at hq
      · next sent hub fault heq =>
          rcases List.mem_cons.mp hq with rfl | hwaits
          · exact ⟨p, List.mem_cons_self, .inr ⟨h, by rw [heq]⟩⟩
          · exact ⟨q, List.mem_cons_of_mem p hwaits, .inl rfl⟩
      · next sent hub heq =>
          rcases List.mem_cons.mp hq with rfl | hlater
          · exact ⟨p, List.mem_cons_self, .inr ⟨h, by rw [heq]⟩⟩
          · obtain ⟨p', hp', hturn⟩ := ih hlater
            exact ⟨p', List.mem_cons_of_mem p hp', hturn⟩

theorem Sound.pump (hsound : r.Sound) (h : Hub) (budget : Nat) (now : Instant) :
    (r.pump h budget now).reached.1.Sound := by
  refine hsound.of_sublist rfl rfl ?_
  exact identity_pumpPeers budget now r.peers h ▸ List.Sublist.refl _

theorem Sound.removeTimedOut (hsound : r.Sound) (timeout : Nat) (checked : Nat → Instant) :
    (r.removeTimedOut timeout checked).2.Sound :=
  hsound.filter _

end Roster
end DatagramLink

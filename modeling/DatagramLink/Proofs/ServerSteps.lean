import Mathlib.Data.List.Nodup
import DatagramLink.Proofs.FrameLoops
import DatagramLink.Proofs.Handshaking
import DatagramLink.Proofs.RosterTable

/-!
# What a server does with a datagram

`Server.Handles` lists everything that a datagram can do to a server with a sound table:
nothing, a new connection, a departure by notice, or something about the one client that
owns it.  Each case has its guards, the answer and the server behind it.

`Server.History` is how a server comes about: datagrams from anywhere, shares, and
timeouts, in any order and at any times, together with the answers given on the way.  A
frame is made of these.  In between the table may take any order, so that a notice may
find any of the clients at its address.
-/

namespace DatagramLink
namespace Server

def withPeers (s : Server) (peers : List Peer) : Server :=
  { s with roster := { s.roster with peers } }

inductive Handles (s : Server) (showDrops : Bool) (source : Address)
    (datagram : ByteArray) (now : Instant) : Option Command → Server → Prop
  | unmoved {reply : Option Command}
      (hreply : ∀ command ∈ reply, command.name ≠ "connectResponse") :
      Handles s showDrops source datagram now reply s
  | welcomed {command : Command} {qport : UInt16}
      (hconnectionless : isConnectionless datagram = true)
      (hcommand : Command.ofDatagram? datagram = some command)
      (hname : command.name = "connect")
      (harguments : connectArguments? command = some (qport, some protocolVersion))
      (hroom : (s.roster.peers.filter (!·.owns source qport)).length <
        s.roster.capacity) :
      Handles s showDrops source datagram now (some (connectResponse s.roster.nextId))
        { s with roster :=
            { s.roster with
              peers := s.roster.peers.filter (!·.owns source qport) ++
                [s.roster.newcomer source qport showDrops now]
              nextId := s.roster.nextId + 1 } }
  | left {command : Command} {before after : List Peer} {p : Peer}
      (hconnectionless : isConnectionless datagram = true)
      (hcommand : Command.ofDatagram? datagram = some command)
      (hname : command.name = "disconnect")
      (hpeers : s.roster.peers = before ++ p :: after)
      (hat : p.channel.remote = source) :
      Handles s showDrops source datagram now none (s.withPeers (before ++ after))
  | heard {qport : UInt16} {before after : List Peer} {p : Peer}
      (hsequenced : isConnectionless datagram = false)
      (hqport : peekQport datagram = some qport)
      (hpeers : s.roster.peers = before ++ p :: after)
      (howns : p.owns source qport = true) :
      Handles s showDrops source datagram now none
        (s.withPeers (before ++ (p.receive source datagram now).2 :: after))
  | probed {qport : UInt16} {before after : List Peer} {p : Peer} {message : ByteArray}
      {id : UInt32} {timestamp : UInt64} {payload : ByteArray}
      (hsequenced : isConnectionless datagram = false)
      (hqport : peekQport datagram = some qport)
      (hpeers : s.roster.peers = before ++ p :: after)
      (howns : p.owns source qport = true)
      (hmessage : (p.receive source datagram now).1.message? = some message)
      (hdecode : Message.decode message = .ok (.probe id timestamp payload)) :
      Handles s showDrops source datagram now none
        { s.withPeers (before ++
            ((p.receive source datagram now).2.enqueue
              (Message.encode (.echo id timestamp payload))).2 :: after) with
          echoed := s.echoed + 1 }
  | parted {qport : UInt16} {before after : List Peer} {p : Peer} {message : ByteArray}
      {reason : String}
      (hsequenced : isConnectionless datagram = false)
      (hqport : peekQport datagram = some qport)
      (hpeers : s.roster.peers = before ++ p :: after)
      (howns : p.owns source qport = true)
      (hmessage : (p.receive source datagram now).1.message? = some message)
      (hdecode : Message.decode message = .ok (.disconnect reason)) :
      Handles s showDrops source datagram now none (s.withPeers (before ++ after))

variable {s : Server} {showDrops : Bool} {source : Address} {datagram : ByteArray}
  {now : Instant}

/-! ## Commands -/

theorem handles_leave (hsound : s.roster.Sound) {command : Command}
    (hconnectionless : isConnectionless datagram = true)
    (hcommand : Command.ofDatagram? datagram = some command)
    (hname : command.name = "disconnect") :
    s.Handles showDrops source datagram now (s.handleLeave source).1.reply
      (s.handleLeave source).2 := by
  unfold handleLeave
  cases hfind : s.roster.findAt? source with
  | none => exact .unmoved (by simp)
  | some p =>
      obtain ⟨hat, before, after, hpeers, -⟩ := List.find?_eq_some_iff_append.mp hfind
      simp only [hsound.remove_eq hpeers]
      exact .left hconnectionless hcommand hname hpeers (beq_iff_eq.mp hat)

/-- A request that nobody owns is refused when the table is full. -/
theorem welcome_refuses (hsound : s.roster.Sound) {qport : UInt16}
    (hfree : ∀ p ∈ s.roster.peers, p.owns source qport = false)
    (hfull : s.roster.capacity ≤ s.roster.length) (showDrops : Bool) (now : Instant) :
    ∃ records, s.welcome showDrops source qport now =
      (⟨records, some (printNotice "Server is full")⟩, s) := by
  have hdropped := hsound.dropExisting_eq source qport
  unfold welcome
  cases hdrop : dropExisting s.roster source qport with
  | mk records rest =>
      rw [hdrop, Roster.filter_not_owns hfree] at hdropped
      simp only at hdropped
      subst hdropped
      simp only [Roster.add_of_full hfull]
      exact ⟨_, rfl⟩

/-- A request is granted when the table has room without its owner. -/
theorem welcome_grants (hsound : s.roster.Sound) {qport : UInt16}
    (hroom : (s.roster.peers.filter (!·.owns source qport)).length < s.roster.capacity)
    (showDrops : Bool) (now : Instant) :
    ∃ records, s.welcome showDrops source qport now =
      (⟨records, some (connectResponse s.roster.nextId)⟩,
        { s with roster :=
            { s.roster with
              peers := s.roster.peers.filter (!·.owns source qport) ++
                [s.roster.newcomer source qport showDrops now]
              nextId := s.roster.nextId + 1 } }) := by
  have hdropped := hsound.dropExisting_eq source qport
  unfold welcome
  cases hdrop : dropExisting s.roster source qport with
  | mk records rest =>
      rw [hdrop] at hdropped
      simp only at hdropped
      have hleft : rest.length < rest.capacity := by
        rw [hdropped]
        exact hroom
      obtain ⟨record, hadd⟩ := Roster.add_of_room hleft source qport showDrops now
      simp only [hadd]
      subst hdropped
      exact ⟨_, rfl⟩

theorem handles_welcome (hsound : s.roster.Sound) {command : Command} {qport : UInt16}
    (hconnectionless : isConnectionless datagram = true)
    (hcommand : Command.ofDatagram? datagram = some command)
    (hname : command.name = "connect")
    (harguments : connectArguments? command = some (qport, some protocolVersion)) :
    s.Handles showDrops source datagram now (s.welcome showDrops source qport now).1.reply
      (s.welcome showDrops source qport now).2 := by
  by_cases hroom : (s.roster.peers.filter (!·.owns source qport)).length < s.roster.capacity
  · obtain ⟨records, hgranted⟩ := welcome_grants hsound hroom showDrops now
    rw [hgranted]
    exact .welcomed hconnectionless hcommand hname harguments hroom
  · obtain ⟨hfree, hfull⟩ := (hsound.full_iff source qport).mp (Nat.not_lt.mp hroom)
    obtain ⟨records, hrefused⟩ := welcome_refuses hsound hfree hfull showDrops now
    rw [hrefused]
    refine .unmoved fun reply hreply => ?_
    cases hreply
    exact (by decide : "print" ≠ "connectResponse")

theorem handles_command (hsound : s.roster.Sound) {command : Command}
    (hconnectionless : isConnectionless datagram = true)
    (hcommand : Command.ofDatagram? datagram = some command) :
    s.Handles showDrops source datagram now
      (s.handleCommand showDrops source command now).1.reply
      (s.handleCommand showDrops source command now).2 := by
  unfold handleCommand
  split
  · refine .unmoved fun reply hreply => ?_
    cases hreply
    exact (by decide : "infoResponse" ≠ "connectResponse")
  · next hname =>
      unfold handleConnect
      cases harguments : connectArguments? command with
      | none =>
          refine .unmoved fun reply hreply => ?_
          cases hreply
          decide
      | some arguments =>
          obtain ⟨qport, version⟩ := arguments
          simp only
          split
          · next hversion =>
              rw [hversion] at harguments
              exact handles_welcome hsound hconnectionless hcommand hname harguments
          · refine .unmoved fun reply hreply => ?_
            cases hreply
            decide
  · next hname => exact handles_leave hsound hconnectionless hcommand hname
  · exact .unmoved (by simp)

/-! ## Datagrams of a channel -/

theorem handles_message (hsound : s.roster.Sound) {qport : UInt16}
    {before after : List Peer} {p : Peer} {message : ByteArray}
    (hsequenced : isConnectionless datagram = false)
    (hqport : peekQport datagram = some qport)
    (hpeers : s.roster.peers = before ++ p :: after)
    (howns : p.owns source qport = true)
    (hmessage : (p.receive source datagram now).1.message? = some message) :
    s.Handles showDrops source datagram now
      ((s.withPeers (before ++ (p.receive source datagram now).2 :: after)).handleMessage
        (p.receive source datagram now).2.id message).1.reply
      ((s.withPeers (before ++ (p.receive source datagram now).2 :: after)).handleMessage
        (p.receive source datagram now).2.id message).2 := by
  have hsound' := hsound.replace hpeers (p.identity_receive source datagram now)
  unfold handleMessage
  cases hdecode : Message.decode message with
  | error cause => exact .heard hsequenced hqport hpeers howns
  | ok content =>
      cases content with
      | probe id timestamp payload =>
          simp only [handleProbe]
          rw [withPeers, hsound'.modify_id rfl]
          exact .probed hsequenced hqport hpeers howns hmessage hdecode
      | echo id timestamp payload => exact .heard hsequenced hqport hpeers howns
      | disconnect reason =>
          simp only
          rw [withPeers, hsound'.remove_eq rfl]
          exact .parted hsequenced hqport hpeers howns hmessage hdecode

theorem handles_sequenced (hsound : s.roster.Sound) {qport : UInt16}
    (hsequenced : isConnectionless datagram = false)
    (hqport : peekQport datagram = some qport) :
    s.Handles showDrops source datagram now
      (s.handleSequenced source qport datagram now).1.reply
      (s.handleSequenced source qport datagram now).2 := by
  unfold handleSequenced
  cases hfind : s.roster.find? source qport with
  | none =>
      have hnone : ∀ q ∈ s.roster.peers, q.owns source qport = false := by
        intro q hq
        simpa using List.find?_eq_none.mp hfind q hq
      simp only [Roster.modify, Roster.modifyFirst_of_none hnone]
      exact .unmoved (by simp)
  | some p =>
      obtain ⟨howns, before, after, hpeers, hbefore⟩ :=
        List.find?_eq_some_iff_append.mp hfind
      have hfirst : ∀ q ∈ before, q.owns source qport = false := by
        intro q hq
        simpa using hbefore q hq
      simp only [Roster.modify, hpeers, Roster.modifyFirst_append hfirst howns]
      cases hmessage : (p.receive source datagram now).1.message? with
      | none => exact .heard hsequenced hqport hpeers howns
      | some message =>
          exact handles_message hsound hsequenced hqport hpeers howns hmessage

/-- Every datagram, whoever sent it, falls under one of the cases. -/
theorem handles (hsound : s.roster.Sound) (showDrops : Bool) (source : Address)
    (datagram : ByteArray) (now : Instant) :
    ∃ reply after,
      (s.handle showDrops source datagram now).1.reply = reply ∧
        (s.handle showDrops source datagram now).2 = after ∧
        s.Handles showDrops source datagram now reply after := by
  refine ⟨_, _, rfl, rfl, ?_⟩
  unfold handle
  cases hconnectionless : isConnectionless datagram with
  | true =>
      cases hcommand : Command.ofDatagram? datagram with
      | none => exact .unmoved (by simp)
      | some command => exact handles_command hsound hconnectionless hcommand
  | false =>
      cases hqport : peekQport datagram with
      | none => exact .unmoved (by simp)
      | some qport => exact handles_sequenced hsound hconnectionless hqport

/-! ## Histories -/

inductive History (hostname : String) (capacity : Nat) : List Command → Server → Prop
  | new : History hostname capacity [] (Server.new hostname capacity)
  | withFragmentsPerTick {answers : List Command} {s : Server} (count : Nat)
      (hhistory : History hostname capacity answers s) :
      History hostname capacity answers (s.withFragmentsPerTick count)
  | withClientTimeout {answers : List Command} {s : Server} (timeout : Nat)
      (hhistory : History hostname capacity answers s) :
      History hostname capacity answers (s.withClientTimeout timeout)
  | handle {answers : List Command} {s : Server} (showDrops : Bool) (source : Address)
      (datagram : ByteArray) (now : Instant)
      (hhistory : History hostname capacity answers s) :
      History hostname capacity
        (answers ++ (s.handle showDrops source datagram now).1.reply.toList)
        (s.handle showDrops source datagram now).2
  | pump {answers : List Command} {s : Server} (h : Hub) (now : Instant)
      (hhistory : History hostname capacity answers s) :
      History hostname capacity answers (s.pump h now).reached.1
  | dropSilent {answers : List Command} {s : Server} (h : Hub) (checked : Nat → Instant)
      (hhistory : History hostname capacity answers s) :
      History hostname capacity answers (s.dropSilent h checked).1
  /-- The clients are gone through in another order from now on. -/
  | reorder {answers : List Command} {s : Server} {peers : List Peer}
      (hperm : peers.Perm s.roster.peers) (hhistory : History hostname capacity answers s) :
      History hostname capacity answers (s.withPeers peers)

variable {hostname : String} {capacity : Nat} {answers : List Command}

/-- A frame goes on with a history, whatever its hub carries and wherever it stops. -/
theorem History.tick (hhistory : History hostname capacity answers s) (h : Hub)
    (now : Instant) (checked : Nat → Instant) :
    ∃ more, History hostname capacity (answers ++ more) (s.tick h now checked).reached.1 := by
  let P : Server × Hub → Prop :=
    fun x => ∃ more, History hostname capacity (answers ++ more) x.1
  have hstart : P (s, h) := ⟨[], by rw [List.append_nil]; exact hhistory⟩
  have hreceived : P (s.receiveAll h now).reached := by
    refine receiveAll_reached ?_ ?_ hstart
    · intro s h rest records hholds hpoll
      exact hholds
    · rintro s h rest source datagram records ⟨more, hmore⟩ hpoll
      have hhandled := hmore.handle (rest.report records).settings.showDrops source
        datagram now
      rw [List.append_assoc] at hhandled
      exact ⟨_, hhandled⟩
  refine Attempt.andThen_reached (P := P) ?_ ?_
  · refine Attempt.andThen_reached (P := P) hreceived ?_
    rintro ⟨s, h⟩ ⟨more, hmore⟩
    exact ⟨more, hmore.pump h now⟩
  · rintro ⟨s, h⟩ ⟨more, hmore⟩
    exact ⟨more, hmore.dropSilent h checked⟩

/-- Whether an answer gives a connection. -/
def isAcceptance (command : Command) : Bool := command.name == "connectResponse"

/-- The answers that give connections, when `count` were given. -/
def acceptances (count : Nat) : List Command :=
  (List.range' 1 count).map connectResponse

theorem acceptances_succ (count : Nat) :
    acceptances (count + 1) = acceptances count ++ [connectResponse (count + 1)] := by
  rw [acceptances, List.range'_concat, List.map_append, Nat.one_mul, Nat.add_comm 1]
  rfl

theorem connectResponse_injective : Function.Injective connectResponse := by
  intro i j heq
  have htext : toString i = toString j := (List.cons.inj (congrArg Command.args heq)).1
  have hi := Text.unsigned?_toString (Nat.le_max_left i j)
  have hj := Text.unsigned?_toString (Nat.le_max_right i j)
  rw [htext, hj] at hi
  exact (Option.some.inj hi).symm

theorem nodup_acceptances (count : Nat) : (acceptances count).Nodup :=
  (List.nodup_range' 1).map connectResponse_injective

/-- What a history leaves behind: a sound table, and identifiers that were given out one
after another. -/
structure Orderly (capacity : Nat) (answers : List Command) (s : Server) : Prop where
  sound : s.roster.Sound
  capacity : s.roster.capacity = capacity
  answers : answers.filter isAcceptance = acceptances (s.roster.nextId - 1)

theorem Orderly.handle (horderly : Orderly capacity answers s) (showDrops : Bool)
    (source : Address) (datagram : ByteArray) (now : Instant) :
    Orderly capacity (answers ++ (s.handle showDrops source datagram now).1.reply.toList)
      (s.handle showDrops source datagram now).2 := by
  obtain ⟨reply, after, hreply, hafter, hhandles⟩ :=
    handles horderly.sound showDrops source datagram now
  rw [hreply, hafter]
  have hsound := horderly.sound
  -- without an answer only the table has to be looked at
  have hsilent : ∀ {peers : List Peer} {echoed : Nat},
      Roster.Sound { s.roster with peers } →
        Orderly capacity (answers ++ (none : Option Command).toList)
          { s.withPeers peers with echoed } := by
    intro peers echoed hpeers
    refine ⟨hpeers, horderly.capacity, ?_⟩
    rw [Option.toList_none, List.append_nil]
    exact horderly.answers
  cases hhandles with
  | unmoved hno =>
      refine ⟨hsound, horderly.capacity, ?_⟩
      have hnone : reply.toList.filter isAcceptance = [] := by
        apply List.filter_eq_nil_iff.mpr
        intro command hcommand
        have hname := hno command (Option.mem_toList.mp hcommand)
        simpa [isAcceptance] using hname
      rw [List.filter_append, hnone, List.append_nil]
      exact horderly.answers
  | @welcomed command qport hconnectionless hcommand hname harguments hroom =>
      have hfree : ∀ p ∈ s.roster.peers.filter (!·.owns source qport),
          p.owns source qport = false := by
        intro p hp
        simpa using (List.mem_filter.mp hp).2
      refine ⟨(hsound.filter _).snoc hroom hfree showDrops now, horderly.capacity, ?_⟩
      have hnext : s.roster.nextId - 1 + 1 = s.roster.nextId :=
        Nat.sub_add_cancel hsound.first
      have hone : [connectResponse s.roster.nextId].filter isAcceptance =
          [connectResponse s.roster.nextId] := rfl
      simp only [Option.toList_some, List.filter_append, hone, horderly.answers,
        Nat.add_sub_cancel]
      rw [← hnext, acceptances_succ, Nat.add_sub_cancel]
  | left hconnectionless hcommand hname hpeers hat =>
      exact hsilent (hsound.drop hpeers)
  | heard hsequenced hqport hpeers howns =>
      exact hsilent (hsound.replace hpeers (Peer.identity_receive _ _ _ _))
  | probed hsequenced hqport hpeers howns hmessage hdecode =>
      exact hsilent (hsound.replace hpeers
        ((Peer.identity_enqueue _ _).trans (Peer.identity_receive _ _ _ _)))
  | parted hsequenced hqport hpeers howns hmessage hdecode =>
      exact hsilent (hsound.drop hpeers)

theorem Orderly.pump (horderly : Orderly capacity answers s) (h : Hub) (now : Instant) :
    Orderly capacity answers (s.pump h now).reached.1 :=
  ⟨horderly.sound.pump h _ now, horderly.capacity, horderly.answers⟩

theorem Orderly.dropSilent (horderly : Orderly capacity answers s) (h : Hub)
    (checked : Nat → Instant) :
    Orderly capacity answers (s.dropSilent h checked).1 :=
  ⟨horderly.sound.removeTimedOut _ checked, horderly.capacity, horderly.answers⟩

theorem History.orderly (hhistory : History hostname capacity answers s) :
    Orderly capacity answers s := by
  induction hhistory with
  | new => exact ⟨Roster.sound_empty capacity, rfl, rfl⟩
  | withFragmentsPerTick count hhistory ih => exact ⟨ih.sound, ih.capacity, ih.answers⟩
  | withClientTimeout timeout hhistory ih => exact ⟨ih.sound, ih.capacity, ih.answers⟩
  | handle showDrops source datagram now hhistory ih =>
      exact ih.handle showDrops source datagram now
  | pump h now hhistory ih => exact ih.pump h now
  | dropSilent h checked hhistory ih => exact ih.dropSilent h checked
  | reorder hperm hhistory ih => exact ⟨ih.sound.perm hperm, ih.capacity, ih.answers⟩

/-! ## The table of clients -/

/-- What holds of the table of clients at any time. -/
structure TableInvariant (capacity : Nat) (answers : List Command) (s : Server) :
    Prop where
  within : s.roster.length ≤ capacity
  keys : ∀ id p, s.roster.get? id = some p ↔ p ∈ s.roster.peers ∧ p.id = id
  ids : ∀ p ∈ s.roster.peers, 1 ≤ p.id ∧ p.id < s.roster.nextId
  /-- The identifiers were given out one after another, -/
  given : answers.filter isAcceptance = acceptances (s.roster.nextId - 1)
  /-- none of them twice, -/
  once : (answers.filter isAcceptance).Nodup
  /-- and up to this many fit into 32 bits. -/
  fits : (answers.filter isAcceptance).length < 2 ^ 32 - 1 → s.roster.nextId < 2 ^ 32
  side : ∀ p ∈ s.roster.peers, p.channel.side = .server
  apart : s.roster.peers.Pairwise fun p q =>
    ¬ (p.channel.qport = q.channel.qport ∧
      p.channel.remote.sameHost q.channel.remote = true)
  owner : ∀ source qport, (s.roster.peers.filter (·.owns source qport)).length ≤ 1
  order : ∀ peers : List Peer, peers.Perm s.roster.peers → ∀ source qport,
    peers.find? (·.owns source qport) = s.roster.find? source qport

/-- Whatever a server has heard, its table can be searched by identifier as by host and
qport, in any order.  Frames go on with its history. -/
theorem History.table (hhistory : History hostname capacity answers s) :
    TableInvariant capacity answers s ∧
      ∀ h now checked, ∃ more,
        History hostname capacity (answers ++ more) (s.tick h now checked).reached.1 := by
  obtain ⟨hsound, hcapacity, hanswers⟩ := hhistory.orderly
  have hissued : ∀ p ∈ s.roster.peers,
      1 ≤ p.id ∧ p.id < s.roster.nextId ∧ p.channel.side = .server :=
    fun p hp => hsound.issued p.identity (List.mem_map_of_mem hp)
  refine ⟨?_, hhistory.tick⟩
  refine
    { within := ?_
      keys := hsound.get?_eq_some_iff
      ids := fun p hp => ⟨(hissued p hp).1, (hissued p hp).2.1⟩
      given := hanswers
      once := ?_
      fits := ?_
      side := fun p hp => (hissued p hp).2.2
      apart := ?_
      owner := hsound.length_owners_le
      order := fun peers hperm source qport => hsound.find?_perm hperm source qport }
  · rw [← hcapacity]
    exact hsound.within
  · rw [hanswers]
    exact nodup_acceptances _
  · intro hfew
    have hfirst := hsound.first
    rw [hanswers, acceptances, List.length_map, List.length_range'] at hfew
    omega
  · refine hsound.pairwise.imp fun {p q} hpq hsame => hpq.2 ⟨hsame.1, ?_⟩
    exact (Address.sameHost_iff _ _).mp hsame.2

/-- A request for a connection goes on with a history. -/
theorem History.welcome (hhistory : History hostname capacity answers s)
    (showDrops : Bool) (source : Address) (qport : UInt16) (now : Instant) :
    History hostname capacity
      (answers ++ (s.welcome showDrops source qport now).1.reply.toList)
      (s.welcome showDrops source qport now).2 := by
  obtain ⟨records, hhandle⟩ := s.handle_connectRequest showDrops source qport now
  have hnext := hhistory.handle showDrops source (connectRequest qport).toDatagram now
  rw [hhandle] at hnext
  exact hnext

/-- A server with a client of its own process and another client. -/
def lobby (second : Address) : Server :=
  ⟨"lobby",
    ⟨4,
      [⟨1, Roster.newChannel .loopback 1 false, 0, []⟩,
        ⟨2, Roster.newChannel second 2 false, 0, []⟩], 3⟩, 8, defaultClientTimeout, 0⟩

theorem history_lobby (second : Address) :
    History "lobby" 4 [connectResponse 1, connectResponse 2] (lobby second) := by
  have hnew : History "lobby" 4 [] (Server.new "lobby" 4) := .new
  exact (hnew.welcome false .loopback 1 0).welcome false second 2 0

/-- Two clients of one process, told apart by their qports. -/
theorem History.table_of_two_clients :
    History "lobby" 4 [connectResponse 1, connectResponse 2] (lobby .loopback) ∧
      TableInvariant 4 [connectResponse 1, connectResponse 2] (lobby .loopback) :=
  ⟨history_lobby .loopback, (history_lobby .loopback).table.1⟩

end Server
end DatagramLink

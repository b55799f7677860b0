import DatagramLink.Proofs.Inbound
import DatagramLink.Proofs.ReplyQueue
import DatagramLink.Proofs.ServerSteps

/-!
# Replies over the history of a server

`Server.Served` is a history of a server that keeps books: which datagrams it was given, and
for each client which of its messages were delivered and how often the channel took one from
its queue.  From the books alone a counted queue can be run, and it is the client's queue.

Datagrams that fit into the receive buffer make replies that fit into the largest message.
So queues keep to both limits, and all that waits in them can be delivered.
-/

namespace DatagramLink

/-! ## Shares -/

namespace Channel

variable {c : Channel} {queue : List ByteArray}

/-- Sending takes messages from the front of a queue. -/
theorem pump_suffix {budget : Nat} {pumped : Pumped}
    (hpump : c.pump queue budget = .ok pumped) :
    pumped.queue <:+ queue := by
  induction budget generalizing c queue pumped with
  | zero =>
      cases hpump
      exact List.suffix_refl _
  | succ budget ih =>
      have hstep : ∀ {sent : Except Fault (Dispatch × Channel)} {rest : List ByteArray},
          (do
            let first ← sent
            let later ← first.2.pump rest budget
            return { later with dispatches := first.1 :: later.dispatches }) = .ok pumped →
          pumped.queue <:+ rest := by
        intro sent rest hsteps
        cases sent with
        | error fault => cases hsteps
        | ok first =>
            simp only [bind, Except.bind] at hsteps
            cases hlater : first.2.pump rest budget with
            | error fault =>
                rw [hlater] at hsteps
                cases hsteps
            | ok later =>
                rw [hlater] at hsteps
                cases hsteps
                have hkept := ih hlater
                exact hkept
      unfold pump at hpump
      split at hpump
      · exact hstep hpump
      · exact (hstep hpump).trans (List.suffix_cons _ _)
      · cases hpump
        exact List.suffix_refl _

theorem prepared_suffix (c : Channel) (queue : List ByteArray) :
    (c.prepared queue).2 <:+ queue := by
  unfold prepared
  split
  · exact List.suffix_cons _ _
  · exact List.suffix_refl _

theorem interrupted_suffix (c : Channel) (queue : List ByteArray) (count : Nat) :
    (c.interrupted queue count).2 <:+ queue := by
  unfold interrupted
  split
  · next pumped hpump => exact (prepared_suffix _ _).trans (pump_suffix hpump)
  · exact List.suffix_refl _

theorem ship_suffix (c : Channel) (h : Hub) (queue : List ByteArray) (budget : Nat)
    (now : Instant) :
    (c.ship h queue budget now).reached.queue <:+ queue := by
  unfold ship
  split
  · exact List.suffix_refl _
  · next pumped hpump =>
      split
      · exact pump_suffix hpump
      · next count hub fault hdispatch =>
          have hrest := c.interrupted_suffix queue count
          split
          next rest heq =>
            rw [heq] at hrest
            exact hrest

end Channel

namespace Roster

theorem pumpPeers_suffix (budget : Nat) (now : Instant) {peers : List Peer} (h : Hub) :
    ∀ q ∈ (pumpPeers budget now peers h).reached.1,
      ∃ p ∈ peers, q.id = p.id ∧ q.queue <:+ p.queue := by
  intro q hq
  obtain ⟨p, hp, rfl | ⟨g, rfl⟩⟩ := mem_pumpPeers hq
  · exact ⟨q, hp, rfl, List.suffix_refl _⟩
  · exact ⟨p, hp, rfl, p.channel.ship_suffix g p.queue budget now⟩

end Roster

namespace Server

/-! ## Books -/

/-- The client of which a datagram completes a message, and the message. -/
def completes? (s : Server) (source : Address) (datagram : ByteArray) :
    Option (Nat × ByteArray) :=
  if isConnectionless datagram then
    none
  else do
    let qport ← peekQport datagram
    let p ← s.roster.find? source qport
    let message ← (p.channel.receive source (.ofBytes datagram)).1.message?
    return (p.id, message)

/-- What a datagram means for a client's queue. -/
def queueEvents (s : Server) (source : Address) (datagram : ByteArray) (id : Nat) :
    List QueueEvent :=
  match s.completes? source datagram with
  | none => []
  | some (client, message) => if client = id then [.delivered message] else []

/-- The messages that wait for a client; none where the identifier is unknown. -/
def queueOf (s : Server) (id : Nat) : List ByteArray :=
  ((s.roster.get? id).map Peer.queue).getD []

/-- What a share took from a client's queue. -/
def shareEvents (s after : Server) (id : Nat) : List QueueEvent :=
  List.replicate ((s.queueOf id).length - (after.queueOf id).length) .taken

/-- A server after it was given the datagrams `heard`, with what happened to the queue of
each identifier. -/
inductive Served (hostname : String) (capacity : Nat) :
    List ByteArray → (Nat → List QueueEvent) → Server → Prop
  | new : Served hostname capacity [] (fun _ => []) (Server.new hostname capacity)
  | withFragmentsPerTick {heard : List ByteArray} {events : Nat → List QueueEvent}
      {s : Server} (count : Nat) (hserved : Served hostname capacity heard events s) :
      Served hostname capacity heard events (s.withFragmentsPerTick count)
  | withClientTimeout {heard : List ByteArray} {events : Nat → List QueueEvent}
      {s : Server} (timeout : Nat) (hserved : Served hostname capacity heard events s) :
      Served hostname capacity heard events (s.withClientTimeout timeout)
  | handle {heard : List ByteArray} {events : Nat → List QueueEvent} {s : Server}
      (showDrops : Bool) (source : Address) (datagram : ByteArray) (now : Instant)
      (hserved : Served hostname capacity heard events s) :
      Served hostname capacity (heard ++ [datagram])
        (fun id => events id ++ s.queueEvents source datagram id)
        (s.handle showDrops source datagram now).2
  | pump {heard : List ByteArray} {events : Nat → List QueueEvent} {s : Server} (h : Hub)
      (now : Instant) (hserved : Served hostname capacity heard events s) :
      Served hostname capacity heard
        (fun id => events id ++ s.shareEvents (s.pump h now).reached.1 id)
        (s.pump h now).reached.1
  | dropSilent {heard : List ByteArray} {events : Nat → List QueueEvent} {s : Server}
      (h : Hub) (checked : Nat → Instant)
      (hserved : Served hostname capacity heard events s) :
      Served hostname capacity heard events (s.dropSilent h checked).1
  | reorder {heard : List ByteArray} {events : Nat → List QueueEvent} {s : Server}
      {peers : List Peer} (hperm : peers.Perm s.roster.peers)
      (hserved : Served hostname capacity heard events s) :
      Served hostname capacity heard events (s.withPeers peers)

variable {hostname : String} {capacity : Nat} {heard : List ByteArray}
  {events : Nat → List QueueEvent} {s : Server}

theorem Served.history (hserved : Served hostname capacity heard events s) :
    ∃ answers, History hostname capacity answers s := by
  induction hserved with
  | new => exact ⟨_, .new⟩
  | withFragmentsPerTick count hserved ih =>
      obtain ⟨answers, hhistory⟩ := ih
      exact ⟨_, hhistory.withFragmentsPerTick count⟩
  | withClientTimeout timeout hserved ih =>
      obtain ⟨answers, hhistory⟩ := ih
      exact ⟨_, hhistory.withClientTimeout timeout⟩
  | handle showDrops source datagram now hserved ih =>
      obtain ⟨answers, hhistory⟩ := ih
      exact ⟨_, hhistory.handle showDrops source datagram now⟩
  | pump h now hserved ih =>
      obtain ⟨answers, hhistory⟩ := ih
      exact ⟨_, hhistory.pump h now⟩
  | dropSilent h checked hserved ih =>
      obtain ⟨answers, hhistory⟩ := ih
      exact ⟨_, hhistory.dropSilent h checked⟩
  | reorder hperm hserved ih =>
      obtain ⟨answers, hhistory⟩ := ih
      exact ⟨_, hhistory.reorder hperm⟩

theorem Served.sound (hserved : Served hostname capacity heard events s) : s.roster.Sound := by
  obtain ⟨answers, hhistory⟩ := hserved.history
  exact hhistory.orderly.sound

/-- What a frame is given waited in the server's ring, or the socket gave it whole. -/
structure FedFrom (h : Hub) (more : List ByteArray) : Prop where
  few : more.length ≤ h.waiting .server
  waited : ∀ datagram ∈ more,
    datagram ∈ (h.ringOf .server).unread ∨ datagram.size < receiveBufferSize

theorem emits_serveDatagram (s : Server) (h : Hub) (source : Address) (datagram : ByteArray)
    (now : Instant) :
    Hub.Emits .server h (s.serveDatagram h source datagram now).reached.2 := by
  change Hub.Emits .server h (respond h source _ now).reached
  unfold respond
  split
  · exact .report _ .nothing
  · exact (Hub.Emits.report _ .nothing).trans (Hub.emits_send _ .server _ source now)

/-- Handling all that waits goes on with the books. -/
theorem Served.receiveAll (hserved : Served hostname capacity heard events s) (h : Hub)
    (now : Instant) :
    ∃ more events', Served hostname capacity (heard ++ more) events'
      (s.receiveAll h now).reached.1 ∧ FedFrom h more := by
  let P : Server × Hub → Prop := fun x =>
    ∃ more events', Served hostname capacity (heard ++ more) events' x.1 ∧
      more.length + x.2.waiting .server ≤ h.waiting .server ∧
      (x.2.ringOf .server).unread ⊆ (h.ringOf .server).unread ∧
      ∀ datagram ∈ more,
        datagram ∈ (h.ringOf .server).unread ∨ datagram.size < receiveBufferSize
  have hstart : P (s, h) := by
    refine ⟨[], events, ?_, Nat.le_of_eq (Nat.zero_add _), List.Subset.refl _, by simp⟩
    rw [List.append_nil]
    exact hserved
  have hreceived : P (s.receiveAll h now).reached := by
    refine receiveAll_reached ?_ ?_ hstart
    · rintro s g rest records ⟨more, events', hmore, hcount, hring, hwaited⟩ hpoll
      have hleft := (g.poll_spec .server).1
      have hless := g.waiting_poll_le .server
      rw [hpoll] at hleft hless
      refine ⟨more, events', hmore, ?_, ?_, hwaited⟩
      · rw [Hub.waiting_report]
        exact (Nat.add_le_add_left hless _).trans hcount
      · rw [Hub.ringOf_report]
        exact List.Subset.trans hleft hring
    · rintro s g rest source datagram records ⟨more, events', hmore, hcount, hring, hwaited⟩
        hpoll
      obtain ⟨hleft, hfound⟩ := g.poll_spec .server
      have hless := g.waiting_poll .server (by rw [hpoll]; rfl)
      have hsame := ((Hub.Emits.report records .nothing).trans
        (emits_serveDatagram s (rest.report records) source datagram now)).sameInbound
      rw [hpoll] at hleft hless hfound
      have hhandled := hmore.handle (rest.report records).settings.showDrops source datagram now
      rw [List.append_assoc] at hhandled
      refine ⟨more ++ [datagram], _, hhandled, ?_, ?_, ?_⟩
      · rw [hsame.waiting_eq, List.length_append, List.length_singleton]
        simp only at hless hcount
        omega
      · rw [hsame.ring]
        exact List.Subset.trans hleft hring
      · intro d hd
        rcases List.mem_append.mp hd with hold | hnew
        · exact hwaited d hold
        · rw [List.mem_singleton.mp hnew]
          exact (hfound source datagram rfl).imp_left (hring ·)
  obtain ⟨more, events', hmore, hcount, -, hwaited⟩ := hreceived
  exact ⟨more, events', hmore, (Nat.le_add_right _ _).trans hcount, hwaited⟩

theorem Served.tick (hserved : Served hostname capacity heard events s) (h : Hub)
    (now : Instant) (checked : Nat → Instant) :
    ∃ more events',
      Served hostname capacity (heard ++ more) events' (s.tick h now checked).reached.1 ∧
        FedFrom h more := by
  let P : Server × Hub → Prop := fun x =>
    ∃ more events', Served hostname capacity (heard ++ more) events' x.1 ∧ FedFrom h more
  refine Attempt.andThen_reached (P := P) ?_ ?_
  · refine Attempt.andThen_reached (P := P) (hserved.receiveAll h now) ?_
    rintro ⟨s, g⟩ ⟨more, events', hmore, hfed⟩
    exact ⟨more, _, hmore.pump g now, hfed⟩
  · rintro ⟨s, g⟩ ⟨more, events', hmore, hfed⟩
    exact ⟨more, _, hmore.dropSilent g checked, hfed⟩

/-! ## One datagram -/

theorem completes?_of_connectionless {source : Address} {datagram : ByteArray}
    (hconnectionless : isConnectionless datagram = true) :
    s.completes? source datagram = none := by
  rw [completes?, if_pos hconnectionless]

theorem completes?_of_sequenced {source : Address} {datagram : ByteArray} {qport : UInt16}
    (hsequenced : isConnectionless datagram = false)
    (hqport : peekQport datagram = some qport) :
    s.completes? source datagram =
      (s.roster.find? source qport).bind fun p =>
        (p.channel.receive source (.ofBytes datagram)).1.message?.map (p.id, ·) := by
  simp only [completes?, hsequenced, Bool.false_eq_true, if_false, hqport,
    Option.bind_eq_bind, Option.bind_some]
  refine congrArg (s.roster.find? source qport).bind (funext fun p => ?_)
  cases (p.channel.receive source (.ofBytes datagram)).1.message? <;> rfl

/-- A queue after a complete message of its client. -/
def answered (queue : List ByteArray) (message : ByteArray) : List ByteArray :=
  match Message.replyTo? message with
  | none => queue
  | some reply => (MessageQueue.trim (queue ++ [reply])).2

/-- What a datagram leaves of a client: the queue of the one whose message it completes is
answered, and every other queue is as it was. -/
structure Requeues (s : Server) (source : Address) (datagram : ByteArray) (p q : Peer) :
    Prop where
  known : p ∈ s.roster.peers
  id : q.id = p.id
  queue : (∃ message, s.completes? source datagram = some (p.id, message) ∧
      q.queue = answered p.queue message) ∨
    (∀ message, s.completes? source datagram ≠ some (p.id, message)) ∧ q.queue = p.queue

theorem Requeues.same {source : Address} {datagram : ByteArray} {q : Peer}
    (hq : q ∈ s.roster.peers)
    (hother : ∀ message, s.completes? source datagram ≠ some (q.id, message)) :
    Requeues s source datagram q q :=
  ⟨hq, rfl, Or.inr ⟨hother, rfl⟩⟩

theorem receive_queue (p : Peer) (source : Address) (datagram : ByteArray) (now : Instant) :
    (p.receive source datagram now).2.id = p.id ∧
      (p.receive source datagram now).2.queue = p.queue ∧
      (p.receive source datagram now).1 =
        (p.channel.receive source (.ofBytes datagram)).1 := by
  unfold Peer.receive
  split
  next receipt channel heq =>
    split <;> exact ⟨rfl, rfl, (congrArg Prod.fst heq).symm⟩

theorem mem_handleMessage (hsound : s.roster.Sound) {before after : List Peer} {p q : Peer}
    (hpeers : s.roster.peers = before ++ p :: after) (message : ByteArray)
    (hq : q ∈ (s.handleMessage p.id message).2.roster.peers) :
    q ∈ before ++ after ∨ q.id = p.id ∧ q.queue = answered p.queue message := by
  have hmiddle : ∀ {x : Peer}, q ∈ before ++ x :: after → q ∈ before ++ after ∨ q = x := by
    intro x hx
    simpa [or_assoc, or_comm, or_left_comm] using hx
  unfold handleMessage at hq
  unfold answered Message.replyTo?
  cases hdecode : Message.decode message with
  | error cause =>
      rw [hdecode] at hq
      simp only [hpeers] at hq
      exact (hmiddle hq).imp_right fun hself => by rw [hself]; exact ⟨rfl, rfl⟩
  | ok content =>
      rw [hdecode] at hq
      cases content with
      | probe id timestamp payload =>
          simp only [handleProbe, hsound.modify_id hpeers] at hq
          exact (hmiddle hq).imp_right fun hself => by rw [hself]; exact ⟨rfl, rfl⟩
      | echo id timestamp payload =>
          simp only [hpeers] at hq
          exact (hmiddle hq).imp_right fun hself => by rw [hself]; exact ⟨rfl, rfl⟩
      | disconnect reason =>
          simp only [hsound.remove_eq hpeers] at hq
          exact Or.inl hq

theorem requeues_sequenced (hsound : s.roster.Sound) {source : Address}
    {datagram : ByteArray} {qport : UInt16} {now : Instant}
    (hsequenced : isConnectionless datagram = false)
    (hqport : peekQport datagram = some qport) {q : Peer}
    (hq : q ∈ (s.handleSequenced source qport datagram now).2.roster.peers) :
    ∃ p, Requeues s source datagram p q := by
  have hcompletes : s.completes? source datagram = _ :=
    s.completes?_of_sequenced hsequenced hqport
  unfold handleSequenced at hq
  cases hfind : s.roster.find? source qport with
  | none =>
      have hnone : ∀ q ∈ s.roster.peers, q.owns source qport = false := by
        intro q hq
        simpa using List.find?_eq_none.mp hfind q hq
      simp only [Roster.modify, Roster.modifyFirst_of_none hnone] at hq
      rw [hfind] at hcompletes
      exact ⟨q, .same hq (by simp [hcompletes])⟩
  | some p =>
      obtain ⟨howns, before, after, hpeers, hbefore⟩ :=
        List.find?_eq_some_iff_append.mp hfind
      have hfirst : ∀ q ∈ before, q.owns source qport = false := by
        intro q hq
        simpa using hbefore q hq
      obtain ⟨hid, hqueue, hreceipt⟩ := receive_queue p source datagram now
      have hknown : p ∈ s.roster.peers := by simp [hpeers]
      have hothers : q ∈ before ++ after → ∃ p, Requeues s source datagram p q := by
        intro hmem
        obtain ⟨hne, hne'⟩ := hsound.id_ne hpeers
        have hdifferent : q.id ≠ p.id := (List.mem_append.mp hmem).elim (hne q) (hne' q)
        refine ⟨q, .same ?_ fun message hsome => ?_⟩
        · rw [hpeers]
          exact ((List.sublist_cons_self p after).append_left before).subset hmem
        · rw [hcompletes, hfind, Option.bind_some, Option.map_eq_some_iff] at hsome
          obtain ⟨other, -, heq⟩ := hsome
          exact hdifferent (congrArg Prod.fst heq).symm
      simp only [Roster.modify, hpeers, Roster.modifyFirst_append hfirst howns] at hq
      rw [hfind, Option.bind_some, ← hreceipt] at hcompletes
      cases hmessage : (p.receive source datagram now).1.message? with
      | none =>
          simp only [hmessage] at hq
          rw [hmessage] at hcompletes
          rcases List.mem_append.mp hq with hmem | hmem
          · exact hothers (List.mem_append_left _ hmem)
          · rcases List.mem_cons.mp hmem with rfl | hmem
            · exact ⟨p, hknown, hid, Or.inr ⟨by simp [hcompletes], hqueue⟩⟩
            · exact hothers (List.mem_append_right _ hmem)
      | some message =>
          simp only [hmessage] at hq
          rw [hmessage] at hcompletes
          have hsound' := hsound.replace hpeers (p.identity_receive source datagram now)
          rcases mem_handleMessage (s := s.withPeers _) hsound' rfl message hq with
            hmem | ⟨hself, hanswered⟩
          · exact hothers hmem
          · rw [hid] at hself
            rw [hqueue] at hanswered
            exact ⟨p, hknown, hself, Or.inl ⟨message, hcompletes, hanswered⟩⟩

/-- A datagram brings a new client with nothing to send, or it leaves the queues to the
clients that there were. -/
theorem requeues_handle (hsound : s.roster.Sound) {showDrops : Bool} {source : Address}
    {datagram : ByteArray} {now : Instant} {q : Peer}
    (hq : q ∈ (s.handle showDrops source datagram now).2.roster.peers) :
    (q.id = s.roster.nextId ∧ q.queue = [] ∧ s.completes? source datagram = none) ∨
      ∃ p, Requeues s source datagram p q := by
  cases hconnectionless : isConnectionless datagram with
  | true =>
      have hnone : s.completes? source datagram = none :=
        s.completes?_of_connectionless hconnectionless
      have hsame : q ∈ s.roster.peers → ∃ p, Requeues s source datagram p q :=
        fun hmem => ⟨q, .same hmem (by simp [hnone])⟩
      obtain ⟨reply, after, -, hafter, hhandles⟩ :=
        handles hsound showDrops source datagram now
      rw [hafter] at hq
      cases hhandles with
      | unmoved hno => exact Or.inr (hsame hq)
      | welcomed hconnectionless hcommand hname harguments hroom =>
          rcases List.mem_append.mp hq with hold | hnew
          · exact Or.inr (hsame (List.mem_filter.mp hold).1)
          · rw [List.mem_singleton.mp hnew]
            exact Or.inl ⟨rfl, rfl, hnone⟩
      | @left command before after p hconnectionless hcommand hname hpeers hat =>
          refine Or.inr (hsame ?_)
          rw [hpeers]
          exact ((List.sublist_cons_self p after).append_left before).subset hq
      | heard hsequenced => simp [hsequenced] at hconnectionless
      | probed hsequenced => simp [hsequenced] at hconnectionless
      | parted hsequenced => simp [hsequenced] at hconnectionless
  | false =>
      refine Or.inr ?_
      cases hqport : peekQport datagram with
      | none =>
          have hnone : s.completes? source datagram = none := by
            simp [completes?, hqport]
          simp only [handle, hconnectionless, Bool.false_eq_true, if_false, hqport] at hq
          exact ⟨q, .same hq (by simp [hnone])⟩
      | some qport =>
          simp only [handle, hconnectionless, Bool.false_eq_true, if_false, hqport] at hq
          exact requeues_sequenced hsound hconnectionless hqport hq

/-! ## The books and the queues -/

/-- What the books of a server say: a counted queue that goes through a client's events ends
as the client's queue, and no identifier has events before it is given out. -/
structure Balanced (limit : Nat) (events : Nat → List QueueEvent) (s : Server) : Prop where
  future : ∀ id, s.roster.nextId ≤ id → events id = []
  counted : ∀ p ∈ s.roster.peers, Outbox.run? (events p.id) = some (.ofQueue p.queue)
  permitted : ∀ p ∈ s.roster.peers, MessageQueue.Permitted p.queue
  sizes : ∀ id message, .delivered message ∈ events id → message.size ≤ limit

theorem queueOf_of_mem (hsound : s.roster.Sound) {p : Peer} (hp : p ∈ s.roster.peers) :
    s.queueOf p.id = p.queue := by
  rw [queueOf, (hsound.get?_eq_some_iff p.id p).mpr ⟨hp, rfl⟩]
  rfl

theorem id_lt_of_mem (hsound : s.roster.Sound) {p : Peer} (hp : p ∈ s.roster.peers) :
    p.id < s.roster.nextId :=
  (hsound.issued p.identity (List.mem_map_of_mem hp)).2.1

theorem exists_of_completes? {source : Address} {datagram message : ByteArray} {client : Nat}
    (hcompletes : s.completes? source datagram = some (client, message)) :
    ∃ p ∈ s.roster.peers, p.id = client ∧
      (p.channel.receive source (.ofBytes datagram)).1.message? = some message := by
  cases hconnectionless : isConnectionless datagram with
  | true =>
      rw [completes?_of_connectionless hconnectionless] at hcompletes
      cases hcompletes
  | false =>
      cases hqport : peekQport datagram with
      | none => simp [completes?, hqport] at hcompletes
      | some qport =>
          rw [completes?_of_sequenced hconnectionless hqport, Option.bind_eq_some_iff]
            at hcompletes
          obtain ⟨p, hfind, hmessage⟩ := hcompletes
          obtain ⟨_, hsome, heq⟩ := Option.map_eq_some_iff.mp hmessage
          cases heq
          exact ⟨p, List.mem_of_find?_eq_some hfind, rfl, hsome⟩

/-- A complete message is recorded where its client's queue is. -/
theorem queueEvents_eq (s : Server) (source : Address) (datagram : ByteArray) (id : Nat) :
    (∃ message, s.completes? source datagram = some (id, message) ∧
      s.queueEvents source datagram id = [.delivered message]) ∨
    (∀ message, s.completes? source datagram ≠ some (id, message)) ∧
      s.queueEvents source datagram id = [] := by
  unfold queueEvents
  cases hcompletes : s.completes? source datagram with
  | none => exact Or.inr ⟨by simp, rfl⟩
  | some found =>
      obtain ⟨client, message⟩ := found
      by_cases hclient : client = id
      · subst hclient
        exact Or.inl ⟨message, rfl, if_pos rfl⟩
      · refine Or.inr ⟨fun other heq => hclient ?_, if_neg hclient⟩
        exact congrArg Prod.fst (Option.some.inj heq)

variable {limit : Nat}

/-- Whatever waits was queued for a message that was delivered. -/
theorem Balanced.caused (hbalanced : Balanced limit events s) {p : Peer}
    (hp : p ∈ s.roster.peers) {reply : ByteArray} (hreply : reply ∈ p.queue) :
    ∃ message, .delivered message ∈ events p.id ∧ Message.replyTo? message = some reply := by
  have hsub := Outbox.sublist_of_run? (hbalanced.counted p hp)
  obtain ⟨event, hevent, hqueued⟩ := List.mem_filterMap.mp (hsub.subset hreply)
  cases event with
  | delivered message => exact ⟨message, hevent, hqueued⟩
  | taken => cases hqueued

/-- Messages that fit into memory are answered with echoes that fit as well. -/
theorem Balanced.reply_size_le (hbalanced : Balanced limit events s) (hmemory : limit < 2 ^ 63)
    {p : Peer} (hp : p ∈ s.roster.peers) {reply : ByteArray} (hreply : reply ∈ p.queue) :
    reply.size ≤ limit := by
  obtain ⟨message, hdelivered, hcause⟩ := hbalanced.caused hp hreply
  have hsize := hbalanced.sizes _ _ hdelivered
  obtain ⟨-, -, -, -, -, hshort⟩ := Message.replyTo?_spec (by omega) hcause
  exact hshort.trans hsize

/-- The count of a queue goes along with an answer. -/
theorem Balanced.step_answered (hbalanced : Balanced limit events s)
    (hmemory : limit < 2 ^ 63) {p : Peer} (hp : p ∈ s.roster.peers) {message : ByteArray}
    (hsize : message.size ≤ limit) :
    (Outbox.ofQueue p.queue).step? (.delivered message) =
      some (.ofQueue (answered p.queue message)) := by
  cases hreply : Message.replyTo? message with
  | none => simp only [Outbox.step?, answered, hreply]
  | some reply =>
      obtain ⟨-, -, -, -, -, hshort⟩ := Message.replyTo?_spec (by omega) hreply
      have htotal := ((hbalanced.permitted p hp).within fun queued hqueued =>
        hbalanced.reply_size_le hmemory hp hqueued).2
      have hlimit : maxQueuedBytes = 2 * 8388608 := rfl
      have hfits : MessageQueue.totalSize p.queue + reply.size < 2 ^ 64 := by omega
      simp only [Outbox.step?, answered, hreply]
      exact Outbox.push?_ofQueue hfits

theorem Balanced.handle (hbalanced : Balanced limit events s) (hsound : s.roster.Sound)
    (hlarge : maxMessageSize ≤ limit) (hmemory : limit < 2 ^ 63) (showDrops : Bool)
    (source : Address) {datagram : ByteArray} (hsize : datagram.size ≤ limit) (now : Instant) :
    Balanced limit (fun id => events id ++ s.queueEvents source datagram id)
      (s.handle showDrops source datagram now).2 := by
  have hmessage : ∀ client message, s.completes? source datagram = some (client, message) →
      client < s.roster.nextId ∧ message.size ≤ limit := by
    intro client message hcompletes
    obtain ⟨p, hp, rfl, hdelivered⟩ := exists_of_completes? hcompletes
    have hbound := p.channel.size_le_of_delivered source datagram hdelivered
    exact ⟨id_lt_of_mem hsound hp, by omega⟩
  have hnext : s.roster.nextId ≤ (s.handle showDrops source datagram now).2.roster.nextId := by
    obtain ⟨reply, after, -, hafter, hhandles⟩ :=
      handles hsound showDrops source datagram now
    rw [hafter]
    cases hhandles with
    | welcomed => exact Nat.le_succ _
    | unmoved => exact Nat.le_refl _
    | left => exact Nat.le_refl _
    | heard => exact Nat.le_refl _
    | probed => exact Nat.le_refl _
    | parted => exact Nat.le_refl _
  constructor
  · intro id hid
    have hnone : s.queueEvents source datagram id = [] := by
      rcases s.queueEvents_eq source datagram id with ⟨message, hcompletes, -⟩ | ⟨-, hnone⟩
      · have hless := (hmessage id message hcompletes).1
        omega
      · exact hnone
    simp only [hbalanced.future id (hnext.trans hid), hnone, List.append_nil]
  · intro q hq
    simp only [Outbox.run?_append]
    rcases requeues_handle hsound hq with ⟨hid, hempty, hnone⟩ | ⟨p, hrequeues⟩
    · rw [hid, hbalanced.future _ (Nat.le_refl _), hempty]
      simp only [queueEvents, hnone]
      rfl
    · rw [hrequeues.id, hbalanced.counted p hrequeues.known, Option.bind_some]
      rcases s.queueEvents_eq source datagram p.id with ⟨message, hcompletes, hevents⟩ |
        ⟨hother, hevents⟩
      · rcases hrequeues.queue with ⟨message', hcompletes', hqueue⟩ | ⟨hother, -⟩
        · have hsame : message' = message := by
            rw [hcompletes] at hcompletes'
            exact (congrArg Prod.snd (Option.some.inj hcompletes')).symm
          rw [hevents, hqueue, hsame, List.foldlM_cons,
            hbalanced.step_answered hmemory hrequeues.known
              (hmessage _ _ hcompletes).2]
          rfl
        · exact absurd hcompletes (hother message)
      · rcases hrequeues.queue with ⟨message', hcompletes', -⟩ | ⟨-, hqueue⟩
        · exact absurd hcompletes' (hother message')
        · rw [hevents, hqueue]
          rfl
  · intro q hq
    rcases requeues_handle hsound hq with ⟨-, hempty, -⟩ | ⟨p, hrequeues⟩
    · rw [hempty]
      exact Or.inr ⟨Nat.zero_le _, Nat.zero_le _⟩
    · have hp := hbalanced.permitted p hrequeues.known
      rcases hrequeues.queue with ⟨message, -, hqueue⟩ | ⟨-, hqueue⟩
      · rw [hqueue]
        unfold answered
        split
        · exact hp
        · exact MessageQueue.trim_permitted _
      · rw [hqueue]
        exact hp
  · intro id message hmem
    rcases List.mem_append.mp hmem with hold | hnew
    · exact hbalanced.sizes id message hold
    · rcases s.queueEvents_eq source datagram id with ⟨delivered, hcompletes, hevents⟩ |
        ⟨-, hevents⟩
      · rw [hevents, List.mem_singleton, QueueEvent.delivered.injEq] at hnew
        rw [hnew]
        exact (hmessage id delivered hcompletes).2
      · rw [hevents] at hnew
        cases hnew

theorem Balanced.pump (hbalanced : Balanced limit events s) (hsound : s.roster.Sound)
    (h : Hub) (now : Instant) :
    Balanced limit (fun id => events id ++ s.shareEvents (s.pump h now).reached.1 id)
      (s.pump h now).reached.1 := by
  have hsound' : (s.pump h now).reached.1.roster.Sound := hsound.pump h s.fragmentsPerTick now
  have hsuffix : ∀ q ∈ (s.pump h now).reached.1.roster.peers,
      ∃ p ∈ s.roster.peers, q.id = p.id ∧ q.queue <:+ p.queue :=
    Roster.pumpPeers_suffix s.fragmentsPerTick now h
  constructor
  · intro id hid
    have hunknown : s.queueOf id = [] := by
      unfold queueOf
      cases hget : s.roster.get? id with
      | none => rfl
      | some p =>
          obtain ⟨hp, hpid⟩ := (hsound.get?_eq_some_iff id p).mp hget
          have hless := id_lt_of_mem hsound hp
          rw [hpid] at hless
          exact absurd hless (Nat.not_lt.mpr hid)
    have hfuture := hbalanced.future id hid
    simp only [shareEvents, hunknown, hfuture, List.length_nil, Nat.zero_sub,
      List.replicate_zero, List.append_nil]
  · intro q hq
    obtain ⟨p, hp, hid, hqueue⟩ := hsuffix q hq
    have htaken := Outbox.takes_of_suffix hqueue
    simp only [Outbox.run?_append, shareEvents, queueOf_of_mem hsound' hq]
    rw [hid, queueOf_of_mem hsound hp, hbalanced.counted p hp]
    exact htaken
  · intro q hq
    obtain ⟨p, hp, -, hqueue⟩ := hsuffix q hq
    exact (hbalanced.permitted p hp).of_suffix hqueue
  · intro id message hmem
    rcases List.mem_append.mp hmem with hold | hnew
    · exact hbalanced.sizes id message hold
    · cases (List.mem_replicate.mp hnew).2

theorem Served.balanced (hserved : Served hostname capacity heard events s)
    (hlarge : maxMessageSize ≤ limit) (hmemory : limit < 2 ^ 63)
    (hsizes : ∀ datagram ∈ heard, datagram.size ≤ limit) :
    Balanced limit events s := by
  induction hserved with
  | new =>
      refine ⟨fun id hid => rfl, fun p hp => ?_, fun p hp => ?_, fun id message hmem => ?_⟩
      · cases hp
      · cases hp
      · cases hmem
  | withFragmentsPerTick count hserved ih =>
      obtain ⟨hfuture, hcounted, hpermitted, hdelivered⟩ := ih hsizes
      exact ⟨hfuture, hcounted, hpermitted, hdelivered⟩
  | withClientTimeout timeout hserved ih =>
      obtain ⟨hfuture, hcounted, hpermitted, hdelivered⟩ := ih hsizes
      exact ⟨hfuture, hcounted, hpermitted, hdelivered⟩
  | handle showDrops source datagram now hserved ih =>
      have hold := ih fun d hd => hsizes d (List.mem_append_left _ hd)
      exact hold.handle hserved.sound hlarge hmemory showDrops source
        (hsizes datagram (by simp)) now
  | pump h now hserved ih => exact (ih hsizes).pump hserved.sound h now
  | dropSilent h checked hserved ih =>
      obtain ⟨hfuture, hcounted, hpermitted, hdelivered⟩ := ih hsizes
      exact ⟨hfuture, fun p hp => hcounted p (List.mem_filter.mp hp).1,
        fun p hp => hpermitted p (List.mem_filter.mp hp).1, hdelivered⟩
  | reorder hperm hserved ih =>
      obtain ⟨hfuture, hcounted, hpermitted, hdelivered⟩ := ih hsizes
      exact ⟨hfuture, fun p hp => hcounted p (hperm.mem_iff.mp hp),
        fun p hp => hpermitted p (hperm.mem_iff.mp hp), hdelivered⟩

/-! ## Bounded queues -/

/-- What holds of every client's queue while datagrams fit into the receive buffer. -/
structure RepliesBounded (events : Nat → List QueueEvent) (s : Server) : Prop where
  /-- The count that all pushes, drops and pops keep is right, -/
  counted : ∀ p ∈ s.roster.peers,
    Outbox.run? (events p.id) = some ⟨p.queue, p.queuedBytes⟩
  /-- which is to say that it is this sum. -/
  sum : ∀ p ∈ s.roster.peers, p.queuedBytes = (p.queue.map ByteArray.size).sum
  few : ∀ p ∈ s.roster.peers, p.queue.length ≤ maxQueuedMessages
  small : ∀ p ∈ s.roster.peers, p.queuedBytes ≤ maxQueuedBytes
  /-- Replies wait in the order of the deliveries, and each has one of its own. -/
  order : ∀ p ∈ s.roster.peers, p.queue.Sublist ((events p.id).filterMap Outbox.queued?)
  echoes : ∀ p ∈ s.roster.peers, ∀ reply ∈ p.queue,
    ∃ message id timestamp payload, .delivered message ∈ events p.id ∧
      Message.decode message = .ok (.probe id timestamp payload) ∧
      Message.decode reply = .ok (.echo id timestamp payload) ∧
      reply.size ≤ message.size ∧ message.size ≤ maxMessageSize
  /-- Any channel in order can send what waits, and its peer puts it together again. -/
  deliverable : ∀ p ∈ s.roster.peers, ∀ sender receiver last,
    Channel.Paired sender receiver last →
      (∃ sent after, Channel.SendsAll sender p.queue sent after) ∧
        ∀ sent after, Channel.SendsAll sender p.queue sent after →
          (receiver.takeIn receiver.remote (sent.map Dispatch.bytes)).1 = p.queue

theorem Served.repliesBounded (hserved : Served hostname capacity heard events s)
    (hshort : ∀ datagram ∈ heard, datagram.size < receiveBufferSize) :
    RepliesBounded events s := by
  have hbuffer : receiveBufferSize ≤ maxMessageSize := by decide
  have hbalanced : Balanced maxMessageSize events s :=
    hserved.balanced (Nat.le_refl _) (by decide) fun datagram hdatagram =>
      Nat.le_of_lt (Nat.lt_of_lt_of_le (hshort datagram hdatagram) hbuffer)
  have hreplies : ∀ p ∈ s.roster.peers, ∀ reply ∈ p.queue, reply.size ≤ maxMessageSize :=
    fun p hp reply hreply => hbalanced.reply_size_le (by decide) hp hreply
  have hwithin := fun p hp => (hbalanced.permitted p hp).within (hreplies p hp)
  constructor
  · exact hbalanced.counted
  · intro p hp
    exact MessageQueue.totalSize_eq_sum p.queue
  · intro p hp
    exact (hwithin p hp).1
  · intro p hp
    exact (hwithin p hp).2
  · intro p hp
    exact Outbox.sublist_of_run? (hbalanced.counted p hp)
  · intro p hp reply hreply
    obtain ⟨message, hdelivered, hcause⟩ := hbalanced.caused hp hreply
    have hsize := hbalanced.sizes _ _ hdelivered
    have hmemory : message.size < 2 ^ 64 := Nat.lt_of_le_of_lt hsize (by decide)
    obtain ⟨id, timestamp, payload, hdecode, hdecode', hless⟩ :=
      Message.replyTo?_spec hmemory hcause
    exact ⟨message, id, timestamp, payload, hdelivered, hdecode, hdecode', hless, hsize⟩
  · intro p hp sender receiver last hpaired
    exact hpaired.takeIn_all (hreplies p hp)

/-- Reply queues stay bounded and deliverable, whatever short datagrams a server is given and
however its calls are mixed; a frame over short datagrams goes on with this.  Queueing a
reply keeps as much as the limits permit. -/
theorem Served.replies_deliverable (hserved : Served hostname capacity heard events s)
    (hshort : ∀ datagram ∈ heard, datagram.size < receiveBufferSize) :
    RepliesBounded events s ∧
      (∀ h now checked,
        (∀ datagram ∈ (h.ringOf .server).unread, datagram.size < receiveBufferSize) →
        ∃ more events', (∀ datagram ∈ more, datagram.size < receiveBufferSize) ∧
          Served hostname capacity (heard ++ more) events'
            (s.tick h now checked).reached.1 ∧
          RepliesBounded events' (s.tick h now checked).reached.1) ∧
      ∀ (p : Peer) message,
        (p.enqueue message).2.queue <:+ p.queue ++ [message] ∧
          MessageQueue.Permitted (p.enqueue message).2.queue ∧
          ∀ other, other <:+ p.queue ++ [message] → MessageQueue.Permitted other →
            other <:+ (p.enqueue message).2.queue := by
  refine ⟨hserved.repliesBounded hshort, ?_, ?_⟩
  · intro h now checked hring
    obtain ⟨more, events', hmore, hfed⟩ := hserved.tick h now checked
    have hmoreShort : ∀ datagram ∈ more, datagram.size < receiveBufferSize :=
      fun datagram hdatagram => (hfed.waited datagram hdatagram).elim (hring datagram) id
    refine ⟨more, events', hmoreShort, hmore, hmore.repliesBounded fun datagram hdatagram => ?_⟩
    exact (List.mem_append.mp hdatagram).elim (hshort datagram) (hmoreShort datagram)
  · intro p message
    exact ⟨MessageQueue.trim_suffix _, MessageQueue.trim_permitted _,
      fun other hother hpermitted => MessageQueue.trim_longest hother hpermitted⟩

/-- A request for a connection, and a probe over it. -/
def visit (qport : UInt16) (message : ByteArray) : List ByteArray :=
  [(connectRequest qport).toDatagram, (Packet.whole (some qport) 1 message).bytes]

/-- A new server after datagrams of its own process. -/
def visited (visits : List ByteArray) : Server :=
  visits.foldl (fun s datagram => (s.handle false .loopback datagram 0).2) (.new "lobby" 4)

theorem served_visited (visits : List ByteArray) :
    ∃ events, Served "lobby" 4 visits events (visited visits) := by
  induction visits using List.reverseRecOn with
  | nil => exact ⟨_, .new⟩
  | append_singleton visits datagram ih =>
      obtain ⟨events, hserved⟩ := ih
      have hnext := hserved.handle false .loopback datagram 0
      rw [visited, List.foldl_concat]
      exact ⟨_, hnext⟩

/-- The echo of a probe with trailing bytes waits, and it is shorter than the probe. -/
theorem Served.replies_deliverable_of_visit :
    let message := Message.encode (.probe 1 5 "ping".toUTF8) ++ "!".toUTF8
    ∃ events, Served "lobby" 4 (visit 7 message) events (visited (visit 7 message)) ∧
      (∀ datagram ∈ visit 7 message, datagram.size < receiveBufferSize) ∧
      (visited (visit 7 message)).roster.peers.map Peer.queuedBytes = [28] ∧
      RepliesBounded events (visited (visit 7 message)) := by
  intro message
  obtain ⟨events, hserved⟩ := served_visited (visit 7 message)
  have hshort : ∀ datagram ∈ visit 7 message, datagram.size < receiveBufferSize := by
    decide +kernel
  have hwaits : (visited (visit 7 message)).roster.peers.map Peer.queuedBytes = [28] := by
    decide +kernel
  exact ⟨events, hserved, hshort, hwaits, (hserved.replies_deliverable hshort).1⟩

end Server
end DatagramLink

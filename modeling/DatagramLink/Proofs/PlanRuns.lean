import DatagramLink.Proofs.MachineRuns
import DatagramLink.Proofs.ProbeLedger
import DatagramLink.Proofs.SendingFaults

/-!
# Runs of a plan

A run is seen as the calls that it makes of its client (`Client.runCalls`), and books are kept of
these calls.  They are found from outside: a frame has asked for a probe when the client has sent
more probes than before it, and for one of the size that the client now awaits.

Between two frames the books agree with the run (`Client.Midway`): the probes of the books are as
many of the plan's as are counted, at most one message waits, and no probe is given up.  A frame
keeps that, so a run keeps it, however it ends; leaving settles what is still awaited.
-/

namespace DatagramLink

/-- A result has a property, or the fault in its place has one. -/
def Meets {α : Type} (r : Except Fault α) (F : Fault → Prop) (P : α → Prop) : Prop :=
  match r with
  | .error fault => F fault
  | .ok a => P a

section
variable {α β : Type} {F : Fault → Prop} {P : α → Prop} {Q : β → Prop}

theorem Meets.bind {r : Except Fault α} {next : α → Except Fault β} (hmeets : Meets r F P)
    (hnext : ∀ a, P a → Meets (next a) F Q) :
    Meets (r >>= next) F Q := by
  cases r with
  | error fault => exact hmeets
  | ok a => exact hnext a hmeets

theorem Meets.map {r : Except Fault α} {f : α → β} (hmeets : Meets r F fun a => Q (f a)) :
    Meets (r.map f) F Q := by
  cases r with
  | error fault => exact hmeets
  | ok a => exact hmeets

theorem Meets.imp {G : Fault → Prop} {R : α → Prop} {r : Except Fault α} (hmeets : Meets r F P)
    (hfault : ∀ fault, F fault → G fault) (hok : ∀ a, P a → R a) :
    Meets r G R := by
  cases r with
  | error fault => exact hfault fault hmeets
  | ok a => exact hok a hmeets

theorem Attempt.Keeps.meets {σ : Type} {a : Attempt σ} {P : σ → Prop} (hkeeps : a.Keeps P F) :
    Meets a.result F fun state => P state ∧ a = .done state := by
  rcases a with ⟨state, _ | fault⟩
  · exact ⟨hkeeps.reached, rfl⟩
  · exact hkeeps.stopped fault rfl

end

/-! ## The probes of a plan -/

theorem getElem?_flatten_replicate {α : Type} (xs : List α) {count k : Nat}
    (hk : k < xs.length * count) :
    (List.replicate count xs).flatten[k]? = xs[k % xs.length]? := by
  induction count generalizing k with
  | zero => cases hk
  | succ count ih =>
      rw [List.replicate_succ, List.flatten_cons]
      by_cases hfirst : k < xs.length
      · rw [List.getElem?_append_left hfirst, Nat.mod_eq_of_lt hfirst]
      · have hle : xs.length ≤ k := Nat.le_of_not_lt hfirst
        rw [Nat.mul_succ] at hk
        rw [List.getElem?_append_right hle, ih (by omega), ← Nat.mod_eq_sub_mod hle]

namespace Client
namespace Plan

/-- The payload sizes of all probes: every size in turn, as often as each is used. -/
def turns (p : Plan) : List Nat := (List.replicate p.count p.sizes).flatten

variable {p : Plan} {k : Nat}

@[simp] theorem length_turns (p : Plan) : p.turns.length = p.total := by
  simp [turns, total, Nat.mul_comm]

theorem getElem?_turns (hk : k < p.total) : p.turns[k]? = p.sizes[k % p.sizes.length]? :=
  getElem?_flatten_replicate p.sizes hk

theorem getElem?_size (hk : k < p.total) :
    p.sizes[k % p.sizes.length]? = some (p.size k) := by
  have hpos : 0 < p.sizes.length := Nat.pos_of_mul_pos_right (Nat.zero_lt_of_lt hk)
  rw [size, List.getD_eq_getElem _ _ (Nat.mod_lt k hpos), List.getElem?_eq_getElem]

theorem take_turns_succ (hk : k < p.total) :
    p.turns.take (k + 1) = p.turns.take k ++ [p.size k] := by
  rw [List.take_add_one, getElem?_turns hk, getElem?_size hk]
  rfl

/-- What can keep a run of a plan from its end. -/
inductive Hinders (p : Plan) (s : Settings) : Fault → Prop
  | plan {fault : Fault} (hfault : p.fault? = some fault) : Hinders p s fault
  | probe {size : Nat} (hsize : size ∈ p.sizes) (hlong : maxPayloadSize < size) :
      Hinders p s .payloadTooLong
  | delay {fault : Fault} (hoverruns : s.Overruns .client fault) : Hinders p s fault

end Plan

/-! ## The calls of a run -/

/-- The call for a probe, when the client has sent more than `sent`: for the last one awaited. -/
def asked (sent : Nat) (c : Client) (clock : UInt64) : List Call :=
  if sent < c.stats.sent then
    c.inFlight.getLast?.toList.map fun probe => .sendProbe probe.size clock
  else
    []

/-- The calls of a frame that leads from `p` to `q`. -/
def frameCalls (p q : Progress) (f : Frame) : List Call :=
  .tick (p.hub.deliver f.arrivals) f.now f.clock :: asked p.client.stats.sent q.client f.clock

def framesCalls (p : Progress) (plan : Plan) (start : Instant) : List Frame → List Call
  | [] => []
  | f :: rest =>
    match frame p plan start f with
    | .error _ => []
    | .ok (some _, q) => frameCalls p q f
    | .ok (none, q) => frameCalls p q f ++ framesCalls q plan start rest

/-- The calls that a run makes of its client. -/
def runCalls (c : Client) (h : Hub) (plan : Plan) (start : Instant) (fs : List Frame) :
    List Call :=
  match c.begin h plan start with
  | .error _ => []
  | .ok p =>
    .connect (announce h) start :: framesCalls p plan start fs ++
      match frames p plan start start fs with
      | .error _ => []
      | .ok (_, now, q) => [.disconnect q.hub now]

/-- Nothing waits to be sent, neither a message nor a fragment. -/
structure Clear (c : Client) : Prop where
  queue : c.queue = []
  channel : ∃ channel, c.channel = some channel ∧ channel.isBusy = false

theorem clear_of_isIdle {c : Client} (hidle : c.isIdle = true) : c.Clear := by
  rw [isIdle, Bool.and_eq_true, List.isEmpty_iff, Option.any_eq_true] at hidle
  obtain ⟨hqueue, channel, hchannel, hfree⟩ := hidle
  exact ⟨hqueue, channel, hchannel, by simpa using hfree⟩

end Client

namespace Books

/-- Along the calls at most one message waits, and a probe is only asked for when nothing does. -/
def Paced (b : Books) (calls : List Client.Call) : Prop :=
  ∀ before rest, before ++ rest = calls →
    (b.run before).client.queue.length ≤ 1 ∧
      ∀ size clock tail, rest = .sendProbe size clock :: tail → (b.run before).client.Clear

section
variable {b : Books} {first last : List Client.Call} {call : Client.Call}

theorem run_append (b : Books) (first last : List Client.Call) :
    b.run (first ++ last) = (b.run first).run last := List.foldl_append

theorem paced_nil (hqueue : b.client.queue.length ≤ 1) : b.Paced [] := by
  intro before rest hsplit
  obtain ⟨rfl, rfl⟩ := List.append_eq_nil_iff.mp hsplit
  exact ⟨hqueue, fun _ _ _ hcall => by cases hcall⟩

theorem paced_singleton (hbefore : b.client.queue.length ≤ 1)
    (hafter : (b.next call).client.queue.length ≤ 1)
    (hclear : ∀ size clock, call = .sendProbe size clock → b.client.Clear) :
    b.Paced [call] := by
  intro before rest hsplit
  rcases List.append_eq_singleton_iff.mp hsplit with ⟨rfl, rfl⟩ | ⟨rfl, rfl⟩
  · refine ⟨hbefore, fun size clock tail hcall => hclear size clock ?_⟩
    exact (List.cons.inj hcall).1
  · exact ⟨hafter, fun _ _ _ hcall => by cases hcall⟩

theorem Paced.append (hfirst : b.Paced first) (hlast : (b.run first).Paced last) :
    b.Paced (first ++ last) := by
  intro before rest hsplit
  rcases List.append_eq_append_iff.mp hsplit with ⟨middle, rfl, rfl⟩ | ⟨middle, rfl, rfl⟩
  · cases middle with
    -- Where the first part ends, the next call is one of the last part.
    | nil =>
        rw [List.append_nil] at hlast
        exact hlast [] last rfl
    | cons call middle =>
        obtain ⟨hqueue, hclear⟩ := hfirst before (call :: middle) rfl
        refine ⟨hqueue, fun size clock tail hcall => ?_⟩
        rw [List.cons_append, List.cons.injEq] at hcall
        exact hclear size clock middle (by rw [hcall.1])
  · rw [run_append]
    exact hlast middle rest rfl

end

end Books

/-! ## Frames of a run -/

namespace Client

/-- At most one message waits, and no probe was given up. -/
structure Modest (c : Client) : Prop where
  queue : c.queue.length ≤ 1
  lost : c.stats.lost = 0

section
variable {c : Client}

theorem Modest.handleMessage (hmodest : c.Modest) (message : ByteArray) (clock : UInt64) :
    (c.handleMessage message clock).2.Modest := by
  unfold Client.handleMessage
  split
  · unfold handleEcho
    split
    · exact hmodest
    · unfold countEcho
      split
      · exact ⟨hmodest.queue, hmodest.lost⟩
      · exact ⟨hmodest.queue, hmodest.lost⟩
  · exact ⟨hmodest.queue, hmodest.lost⟩
  · exact hmodest
  · exact hmodest

theorem Modest.handleCommand (hmodest : c.Modest) (showDrops : Bool) (command : Command) :
    (c.handleCommand showDrops command).2.Modest := by
  unfold Client.handleCommand handleConnected
  split
  · split
    · split <;> exact ⟨hmodest.queue, hmodest.lost⟩
    · exact hmodest
  · exact ⟨hmodest.queue, hmodest.lost⟩
  · exact ⟨hmodest.queue, hmodest.lost⟩
  · exact hmodest

theorem Modest.handle (hmodest : c.Modest) (showDrops : Bool) (source : Address)
    (datagram : ByteArray) (clock : UInt64) :
    (c.handle showDrops source datagram clock).2.Modest := by
  unfold Client.handle
  split
  · split
    · cases Command.ofDatagram? datagram with
      | none => exact hmodest
      | some command => exact hmodest.handleCommand showDrops command
    · exact hmodest
  · cases c.channel with
    | none => exact hmodest
    | some channel =>
        simp only [handleSequenced]
        cases channel.receive source (.ofBytes datagram) with
        | mk receipt after =>
            have hreceived : Modest { c with channel := some after } :=
              ⟨hmodest.queue, hmodest.lost⟩
            cases receipt.message? with
            | none => exact hreceived
            | some message => exact hreceived.handleMessage message clock

theorem Modest.sendConnect (hmodest : c.Modest) (h : Hub) (now : Instant) :
    (c.sendConnect h now).reached.1.Modest := by
  unfold Client.sendConnect
  split
  · exact ⟨hmodest.queue, hmodest.lost⟩
  · exact hmodest

theorem Modest.connect (hmodest : c.Modest) (h : Hub) (now : Instant) :
    (c.connect h now).reached.1.Modest := by
  have hstarted : Modest { c with phase := .connecting } := ⟨hmodest.queue, hmodest.lost⟩
  exact hstarted.sendConnect _ now

theorem Modest.pump (hmodest : c.Modest) (h : Hub) (now : Instant) :
    (c.pump h now).reached.1.Modest := by
  unfold Client.pump
  split
  · exact hmodest
  · next channel hchannel =>
      have hrest := channel.ship_suffix h c.queue c.fragmentsPerTick now
      exact ⟨hrest.length_le.trans hmodest.queue, hmodest.lost⟩

theorem Modest.tick (hmodest : c.Modest) (h : Hub) (now : Instant) (clock : UInt64) :
    (c.tick h now clock).reached.1.Modest := by
  refine tick_keeps (P := Modest) ?_ (fun h hkept => hkept.sendConnect h now)
    fun h hkept => hkept.pump h now
  exact receiveAll_keeps (fun showDrops source datagram clock hkept =>
    hkept.handle showDrops source datagram clock) hmodest h clock

end

/-- A run in the middle, and the books of the calls so far. -/
structure Midway (server : Address) (qport : UInt16) (plan : Plan) (s : Settings) (b : Books)
    (p : Progress) : Prop where
  engaged : Engaged server qport s (p.client, p.hub)
  modest : p.client.Modest
  sound : b.Sound
  client : b.client = p.client
  /-- The probes issued are the first ones of the plan. -/
  sizes : b.issued.map Probe.size = plan.turns.take p.issued
  within : p.issued ≤ plan.total

section
variable {server : Address} {qport : UInt16} {plan : Plan} {s : Settings} {b : Books}
  {p : Progress} {c : Client} {h : Hub} {issued : Nat} {start : Instant}

theorem Midway.length_issued (hmidway : Midway server qport plan s b p) :
    b.issued.length = p.issued := by
  have hlength := congrArg List.length hmidway.sizes
  rw [List.length_map, List.length_take, Plan.length_turns] at hlength
  rw [hlength, Nat.min_eq_left hmidway.within]

theorem Midway.queue (hmidway : Midway server qport plan s b p) :
    b.client.queue.length ≤ 1 := by
  rw [hmidway.client]
  exact hmidway.modest.queue

/-- The client's count and the run's own agree. -/
theorem Midway.sent (hmidway : Midway server qport plan s b p) :
    p.client.stats.sent = p.issued := by
  rw [← hmidway.client, hmidway.sound.sent, hmidway.length_issued]

theorem Midway.few (hmidway : Midway server qport plan s b p) (hfew : plan.total < 2 ^ 32) :
    b.issued.length < 2 ^ 32 := by
  rw [hmidway.length_issued]
  exact Nat.lt_of_le_of_lt hmidway.within hfew

theorem Midway.tick (hmidway : Midway server qport plan s b p) (hfew : plan.total < 2 ^ 32)
    (arrivals : List Arrival) (now : Instant) (clock : UInt64) :
    Meets (p.client.tick (p.hub.deliver arrivals) now clock).result (plan.Hinders s) fun x =>
      Midway server qport plan s (b.run [.tick (p.hub.deliver arrivals) now clock])
          ⟨x.1, x.2, p.issued⟩ ∧
        b.Paced [.tick (p.hub.deliver arrivals) now clock] := by
  have hdelivered : Engaged server qport s (p.client, p.hub.deliver arrivals) :=
    ⟨hmidway.engaged.steady, hmidway.engaged.settings⟩
  have hsound := hmidway.sound.tick (hmidway.few hfew).le (p.hub.deliver arrivals) now clock
  have hmodest := hmidway.modest.tick (p.hub.deliver arrivals) now clock
  have hclient : (b.next (.tick (p.hub.deliver arrivals) now clock)).client =
      (p.client.tick (p.hub.deliver arrivals) now clock).reached.1 := by
    rw [← hmidway.client]
    rfl
  refine (hdelivered.keeps_tick now clock).meets.imp (fun _ hoverruns => .delay hoverruns) ?_
  rintro ⟨c, h⟩ ⟨hengaged, hreached⟩
  rw [hreached] at hclient hmodest
  refine ⟨⟨hengaged, hmodest, hsound, hclient, ?_, hmidway.within⟩,
    Books.paced_singleton hmidway.queue ?_ fun size clock hcall => by cases hcall⟩
  · have hissued := b.issued_tick (p.hub.deliver arrivals) now clock
    exact (congrArg (List.map Probe.size) hissued).trans hmidway.sizes
  · rw [hclient]
    exact hmodest.queue

theorem exists_sendProbe {size : Nat} (hconnected : c.isConnected = true)
    (hsize : size ≤ maxPayloadSize) (clock : UInt64) :
    ∃ after, c.sendProbe size clock = .ok (some c.nextProbe, after) ∧
      after.queue.length = c.queue.length + 1 ∧ after.stats = c.stats.countSent ∧
      after.inFlight.getLast? = some ⟨c.nextProbe, size⟩ := by
  rw [sendProbe, if_neg (by simp [hconnected]), if_neg (Nat.not_lt.mpr hsize)]
  exact ⟨_, rfl, by simp, rfl, by simp [await]⟩

theorem asked_sent (c : Client) (clock : UInt64) : asked c.stats.sent c clock = [] :=
  if_neg (Nat.lt_irrefl _)

theorem Midway.ask (hmidway : Midway server qport plan s b ⟨c, h, issued⟩)
    (hfew : plan.total < 2 ^ 32) (hconnected : c.isConnected = true)
    (hleft : issued < plan.total) (hclear : c.Clear) (clock : UInt64) :
    Meets (c.sendProbe (plan.size issued) clock) (plan.Hinders s) fun x =>
      Midway server qport plan s (b.run (asked c.stats.sent x.2 clock)) ⟨x.2, h, issued + 1⟩ ∧
        b.Paced (asked c.stats.sent x.2 clock) := by
  have hclient : b.client = c := hmidway.client
  by_cases hsize : plan.size issued ≤ maxPayloadSize
  · obtain ⟨after, hsend, hqueue, hstats, hlast⟩ := exists_sendProbe hconnected hsize clock
    have hmore : c.stats.sent < after.stats.sent := by
      rw [hstats]
      exact Nat.lt_succ_self _
    have hcall : asked c.stats.sent after clock = [.sendProbe (plan.size issued) clock] := by
      rw [asked, if_pos hmore, hlast]
      rfl
    have hmodest : after.Modest := by
      constructor
      · rw [hqueue, hclear.queue]
        exact le_rfl
      · rw [hstats]
        exact hmidway.modest.lost
    have hasked : (b.next (.sendProbe (plan.size issued) clock)).client = after := by
      rw [Books.next, Books.ask, hclient, hsend]
    have hissued : (b.next (.sendProbe (plan.size issued) clock)).issued =
        b.issued ++ [⟨b.client.nextProbe, plan.size issued⟩] :=
      Books.issued_ask (by rw [hclient]; exact hconnected) hsize
    have hcount : (b.next (.sendProbe (plan.size issued) clock)).issued.length ≤ 2 ^ 32 := by
      have hbefore := hmidway.few hfew
      rw [hissued, List.length_append, List.length_singleton]
      omega
    rw [hsend, Meets, hcall]
    refine ⟨⟨⟨hmidway.engaged.steady.sendProbe hsend, hmidway.engaged.settings⟩, hmodest,
      hmidway.sound.next _ hcount, hasked, ?_, hleft⟩, Books.paced_singleton hmidway.queue ?_ ?_⟩
    · have hsizes : b.issued.map Probe.size = plan.turns.take issued := hmidway.sizes
      rw [Plan.take_turns_succ hleft, ← hsizes]
      exact (congrArg (List.map Probe.size) hissued).trans List.map_append
    · rw [hasked]
      exact hmodest.queue
    · intro size clock hcall
      rw [hclient]
      exact hclear
  · rw [sendProbe, if_neg (by simp [hconnected]), if_pos (Nat.not_le.mp hsize)]
    exact .probe (List.mem_of_getElem? (Plan.getElem?_size hleft)) (Nat.not_le.mp hsize)

theorem Midway.proceed (hmidway : Midway server qport plan s b ⟨c, h, issued⟩)
    (hfew : plan.total < 2 ^ 32) (clock : UInt64) :
    Meets (c.proceed plan issued clock) (plan.Hinders s) fun x =>
      Midway server qport plan s (b.run (asked c.stats.sent x.2 clock)) ⟨x.2, h, x.1⟩ ∧
        b.Paced (asked c.stats.sent x.2 clock) := by
  have hwait : Midway server qport plan s (b.run (asked c.stats.sent c clock)) ⟨c, h, issued⟩ ∧
      b.Paced (asked c.stats.sent c clock) := by
    rw [asked_sent]
    exact ⟨hmidway, Books.paced_nil hmidway.queue⟩
  unfold Client.proceed issue
  split
  · next hconnected =>
      split
      · next hnext =>
          exact (hmidway.ask hfew hconnected hnext.1 (clear_of_isIdle hnext.2) clock).map
      · exact hwait
  · exact hwait

theorem Midway.report (hmidway : Midway server qport plan s b p) (records : List Record) :
    Midway server qport plan s b { p with hub := p.hub.report records } where
  engaged := ⟨hmidway.engaged.steady, hmidway.engaged.settings⟩
  modest := hmidway.modest
  sound := hmidway.sound
  client := hmidway.client
  sizes := hmidway.sizes
  within := hmidway.within

/-- All probes of a plan are issued, and none is awaited any more. -/
def Progress.Answered (p : Progress) (plan : Plan) : Prop :=
  p.issued = plan.total ∧ p.client.inFlight = []

theorem answered_of_ending? {now : Instant} {record : Record}
    (hending : c.ending? plan start issued now = some (.answered, record)) :
    Progress.Answered ⟨c, h, issued⟩ plan := by
  unfold ending? at hending
  split at hending
  · next hall =>
      simp only [Bool.and_eq_true, beq_iff_eq, List.isEmpty_iff] at hall
      exact ⟨hall.1.2, hall.2⟩
  · split at hending
    · cases hending
    · split at hending <;> cases hending

theorem Midway.frame (hmidway : Midway server qport plan s b p) (hfew : plan.total < 2 ^ 32)
    (start : Instant) (f : Frame) :
    Meets (frame p plan start f) (plan.Hinders s) fun x =>
      Midway server qport plan s (b.run (frameCalls p x.2 f)) x.2 ∧
        b.Paced (frameCalls p x.2 f) ∧
        (x.1 = some .answered → x.2.Answered plan) := by
  unfold Client.frame
  refine (hmidway.tick hfew f.arrivals f.now f.clock).bind ?_
  rintro ⟨c, h⟩ ⟨hticked, htick⟩
  refine (hticked.proceed hfew f.clock).bind ?_
  rintro ⟨issued, after⟩ ⟨hasked, hask⟩
  have hsent : c.stats.sent = p.client.stats.sent := hticked.sent.trans hmidway.sent.symm
  rw [hsent] at hask hasked
  have hpaced := htick.append hask
  rw [← Books.run_append] at hasked
  simp only
  split
  · exact ⟨hasked, hpaced, fun hnone => by cases hnone⟩
  · next ending record hending =>
      refine ⟨hasked.report [record], hpaced, fun hanswered => ?_⟩
      cases hanswered
      exact answered_of_ending? hending

theorem Midway.frames (hmidway : Midway server qport plan s b p) (hfew : plan.total < 2 ^ 32)
    (start last : Instant) (fs : List Frame) :
    Meets (frames p plan start last fs) (plan.Hinders s) fun x =>
      Midway server qport plan s (b.run (framesCalls p plan start fs)) x.2.2 ∧
        b.Paced (framesCalls p plan start fs) ∧
        (x.1 = .answered → x.2.2.Answered plan) := by
  -- One frame's calls are added to the books at a time, so books, run and time vary together.
  induction fs generalizing b p last with
  | nil =>
      exact ⟨hmidway.report [interruptedRecord], Books.paced_nil hmidway.queue,
        fun hanswered => by cases hanswered⟩
  | cons f fs ih =>
      have hframe := hmidway.frame hfew start f
      unfold Client.frames framesCalls
      cases hresult : Client.frame p plan start f with
      | error fault =>
          rw [hresult] at hframe
          exact hframe
      | ok reached =>
          rw [hresult] at hframe
          obtain ⟨ending?, q⟩ := reached
          obtain ⟨hnext, hpaced, hanswered⟩ := hframe
          cases ending? with
          | some ending => exact ⟨hnext, hpaced, fun hall => hanswered (congrArg some hall)⟩
          | none =>
              refine (ih hnext f.now).imp (fun _ hhinders => hhinders) ?_
              rintro x ⟨hlast, hrest, hall⟩
              rw [Books.run_append]
              exact ⟨hlast, hpaced.append hrest, hall⟩

end

/-! ## Whole runs -/

/-- What the books of a run of a plan say when it is over. -/
structure Plan.Accounted (plan : Plan) (ending : Ending) (b : Books) : Prop where
  /-- The probes issued are the first ones of the plan. -/
  inTurn : b.issued.map Probe.size <+: plan.turns
  numbered : ∀ k probe, b.issued[k]? = some probe →
    probe.id.toNat = k + 1 ∧ plan.sizes[k % plan.sizes.length]? = some probe.size
  phase : b.client.phase = .disconnected
  channel : b.client.channel = none
  queue : b.client.queue = []
  inFlight : b.client.inFlight = []
  sent : b.client.stats.sent = b.issued.length
  sent_le : b.client.stats.sent ≤ plan.total
  settled : b.client.stats.sent =
    b.client.stats.echoed + b.client.stats.corrupted + b.client.stats.lost
  answered : ending = .answered → b.client.stats.sent = plan.total ∧ b.client.stats.lost = 0
  empty : plan.sizes = [] ∨ plan.count = 0 → b.issued = []

section
variable {server : Address} {qport : UInt16} {plan : Plan} {s : Settings} {b : Books}
  {p : Progress} {ending : Ending}

theorem Midway.numbered (hmidway : Midway server qport plan s b p) (hfew : plan.total < 2 ^ 32)
    {k : Nat} {probe : Probe} (hprobe : b.issued[k]? = some probe) :
    probe.id.toNat = k + 1 ∧ plan.sizes[k % plan.sizes.length]? = some probe.size := by
  obtain ⟨hk, -⟩ := List.getElem?_eq_some_iff.mp hprobe
  have htotal : k < plan.total := by
    rw [hmidway.length_issued] at hk
    exact Nat.lt_of_lt_of_le hk hmidway.within
  constructor
  · have hid := congrArg (·[k]?) hmidway.sound.numbered
    simp only [List.getElem?_map, hprobe, List.getElem?_range hk, Option.map_some,
      Option.some.injEq] at hid
    rw [hid, UInt32.toNat_ofNat']
    omega
  · have hsize := congrArg (·[k]?) hmidway.sizes
    rw [hmidway.length_issued] at hk
    simp only [List.getElem?_map, hprobe, Option.map_some, List.getElem?_take, if_pos hk,
      Plan.getElem?_turns htotal] at hsize
    exact hsize.symm

/-- What is known when the client of a run has left. -/
theorem Midway.accounted {last : Books} {told : Client}
    (hmidway : Midway server qport plan s b p) (hfew : plan.total < 2 ^ 32)
    (hanswered : ending = .answered → p.Answered plan) (hsound : last.Sound)
    (hissued : last.issued = b.issued) (hsame : p.client.SameProbes told)
    (hclient : last.client = told.reset) :
    plan.Accounted ending last := by
  obtain ⟨client, issued, entries⟩ := last
  simp only at hclient hissued
  subst hclient hissued
  have hsent : told.reset.stats.sent = p.issued := hsound.sent.trans hmidway.length_issued
  exact
    { inTurn := by
        rw [hmidway.sizes]
        exact List.take_prefix _ _
      numbered := fun k probe hprobe => hmidway.numbered hfew hprobe
      phase := rfl
      channel := rfl
      queue := rfl
      inFlight := rfl
      sent := hsound.sent
      sent_le := hsent.trans_le hmidway.within
      settled := (hsound.balanced (hmidway.few hfew).le).total
      answered := by
        intro hall
        obtain ⟨hcount, hnone⟩ := hanswered hall
        have hlost : told.reset.stats.lost = told.stats.lost + told.inFlight.length := rfl
        refine ⟨hsent.trans hcount, ?_⟩
        rw [hlost, hsame.stats, hsame.inFlight, hnone, hmidway.modest.lost]
        rfl
      empty := by
        intro hempty
        have hzero : plan.total = 0 := by
          rcases hempty with hsizes | hcount
          · simp [Plan.total, hsizes]
          · simp [Plan.total, hcount]
        have hnothing : p.issued = 0 := Nat.le_zero.mp (hmidway.within.trans_eq hzero)
        exact List.eq_nil_of_length_eq_zero (hmidway.length_issued.trans hnothing) }

theorem midway_begin (server : Address) (qport : UInt16) (budget : Nat) (h : Hub) (plan : Plan)
    (start : Instant) :
    Meets ((started server qport budget).begin h plan start) (plan.Hinders h.settings) fun p =>
      Midway server qport plan h.settings
          ((Books.opened server qport).run
            [.withFragmentsPerTick budget, .connect (announce h) start]) p ∧
        (Books.opened server qport).Paced
          [.withFragmentsPerTick budget, .connect (announce h) start] := by
  have hstarted : Engaged server qport h.settings (started server qport budget, announce h) :=
    ⟨⟨rfl, rfl, fun channel hchannel => by cases hchannel⟩, rfl⟩
  have hconnect := (hstarted.keeps_connect start).meets
  have hfresh : (started server qport budget).Modest := ⟨Nat.zero_le 1, rfl⟩
  have hmodest := hfresh.connect (announce h) start
  have hsound := Books.sound_run server qport
    [.withFragmentsPerTick budget, .connect (announce h) start] (Nat.zero_le _)
  have hclient : ((Books.opened server qport).run
      [.withFragmentsPerTick budget, .connect (announce h) start]).client =
        ((started server qport budget).connect (announce h) start).reached.1 := rfl
  have hset : (Books.opened server qport).Paced [.withFragmentsPerTick budget] :=
    Books.paced_singleton (Nat.zero_le 1) (Nat.zero_le 1) fun size clock hcall => by cases hcall
  have hasked : ((Books.opened server qport).run [.withFragmentsPerTick budget]).Paced
      [.connect (announce h) start] :=
    Books.paced_singleton (Nat.zero_le 1) hmodest.queue fun size clock hcall => by cases hcall
  unfold Client.begin
  cases hfault : plan.fault? with
  | some fault => exact .plan hfault
  | none =>
      refine Meets.map ?_
      refine hconnect.imp (fun _ hoverruns => .delay hoverruns) ?_
      rintro ⟨c, left⟩ ⟨hengaged, hdone⟩
      rw [hdone] at hclient hmodest
      exact ⟨⟨hengaged, hmodest, hsound, hclient, rfl, Nat.zero_le _⟩, hset.append hasked⟩

theorem Midway.finish (hmidway : Midway server qport plan s b p) (hfew : plan.total < 2 ^ 32)
    (hanswered : ending = .answered → p.Answered plan) (now : Instant) :
    Meets (p.client.finish p.hub now) (plan.Hinders s) fun x =>
      (b.run [.disconnect p.hub now]).client = x.1 ∧ b.Paced [.disconnect p.hub now] ∧
        plan.Accounted ending (b.run [.disconnect p.hub now]) := by
  have hleave := (hmidway.engaged.keeps_disconnect now).meets
  have hcount : (b.next (.disconnect p.hub now)).issued.length ≤ 2 ^ 32 :=
    (hmidway.few hfew).le
  have hsound := hmidway.sound.next (.disconnect p.hub now) hcount
  have hbooks : (b.next (.disconnect p.hub now)).client =
      (p.client.disconnect p.hub now).reached.1 := by
    rw [← hmidway.client]
    rfl
  unfold Client.finish
  cases hresult : (p.client.disconnect p.hub now).result with
  | error fault =>
      rw [hresult] at hleave
      exact .delay hleave
  | ok reached =>
      rw [hresult] at hleave
      obtain ⟨-, hdone⟩ := hleave
      obtain ⟨told, hsame, hreset | ⟨hstopped, -⟩⟩ := p.client.disconnect_cases p.hub now
      · rw [hdone] at hbooks hreset
        rw [hreset] at hbooks
        refine ⟨hbooks.trans hreset.symm, Books.paced_singleton hmidway.queue ?_ ?_,
          hmidway.accounted hfew hanswered hsound rfl hsame hbooks⟩
        · rw [hbooks]
          exact Nat.zero_le 1
        · exact fun size clock hcall => by cases hcall
      · rw [hdone] at hstopped
        exact absurd rfl hstopped

end

/-- Whatever arrives while a plan is run, and however the run ends, its probes are the first ones
of the plan, one at a time, and each of them is settled when the client has left.  A run that ends
because all probes are answered has sent all of the plan and lost none.  Nothing keeps a run from
its end but a plan that cannot be carried out or a delay that is too long. -/
theorem accounted_run (server : Address) (qport : UInt16) (budget : Nat) (h : Hub) (plan : Plan)
    (start : Instant) (fs : List Frame) (hfew : plan.total < 2 ^ 32) :
    let calls := .withFragmentsPerTick budget ::
      (started server qport budget).runCalls h plan start fs
    match (started server qport budget).run h plan start fs with
    | .error fault => plan.Hinders h.settings fault
    | .ok (ending, after, _) =>
      ((Books.opened server qport).run calls).client = after ∧
        (Books.opened server qport).Paced calls ∧
        plan.Accounted ending ((Books.opened server qport).run calls) := by
  intro calls
  have hbegin := midway_begin server qport budget h plan start
  unfold calls runCalls run
  cases hbegun : (started server qport budget).begin h plan start with
  | error fault =>
      rw [hbegun] at hbegin
      exact hbegin
  | ok p =>
      rw [hbegun] at hbegin
      obtain ⟨hmidway, hfirst⟩ := hbegin
      have hframes := hmidway.frames hfew start start fs
      cases hended : frames p plan start start fs with
      | error fault =>
          rw [hended] at hframes
          simp only [bind, Except.bind, hended]
          exact hframes
      | ok reached =>
          rw [hended] at hframes
          obtain ⟨ending, now, q⟩ := reached
          obtain ⟨hlast, hmiddle, hanswered⟩ := hframes
          have hfinish := hlast.finish hfew hanswered now
          simp only [bind, Except.bind, hended]
          cases hleft : q.client.finish q.hub now with
          | error fault =>
              rw [hleft] at hfinish
              exact hfinish
          | ok left =>
              rw [hleft] at hfinish
              obtain ⟨hclient, hleaving, haccounted⟩ := hfinish
              have hcalls := (hfirst.append hmiddle).append
                (by rw [Books.run_append]; exact hleaving)
              rw [← Books.run_append, ← Books.run_append] at hclient haccounted
              exact ⟨hclient, hcalls, haccounted⟩

/-- Two probes are sent to a server and come back, and the run ends. -/
theorem accounted_run_of_two_probes :
    let lobby : Endpoint := .v4 ⟨#v[10, 0, 0, 1]⟩ 27960
    let home : Endpoint := .v4 ⟨#v[10, 0, 0, 2]⟩ 5000
    let echo (sequence id : UInt32) (size : Nat) : Arrival :=
      .datagram (Packet.whole none sequence
        (Message.encode (.echo id 100 (probePayload id size)))).bytes lobby
    let h : Hub := .ofSocket { qport := 7 } .plain home
    let plan : Plan := ⟨[3, 5], 1, milliseconds 20, seconds 1⟩
    let fs : List Frame := [
      { now := milliseconds 20, clock := 100
        arrivals := [.datagram (connectResponse 1).toDatagram lobby] },
      { now := milliseconds 40, clock := 120 },
      { now := milliseconds 60, clock := 140, arrivals := [echo 1 1 3] },
      { now := milliseconds 80, clock := 160, arrivals := [echo 2 2 5] }]
    let calls := .withFragmentsPerTick 8 :: (started (.remote lobby) 7 8).runCalls h plan 0 fs
    plan.total < 2 ^ 32 ∧ ∃ after left,
      (started (.remote lobby) 7 8).run h plan 0 fs = .ok (.answered, after, left) ∧
        ((Books.opened (.remote lobby) 7).run calls).client = after ∧
        (Books.opened (.remote lobby) 7).Paced calls ∧
        plan.Accounted .answered ((Books.opened (.remote lobby) 7).run calls) := by
  intro lobby home echo h plan fs calls
  have hfew : plan.total < 2 ^ 32 := by decide
  have hended : ((started (.remote lobby) 7 8).run h plan 0 fs).toOption.map (·.1) =
      some .answered := by
    decide +kernel
  have haccounted := accounted_run (.remote lobby) 7 8 h plan 0 fs hfew
  cases hrun : (started (.remote lobby) 7 8).run h plan 0 fs with
  | error fault =>
      rw [hrun] at hended
      cases hended
  | ok result =>
      obtain ⟨ending, after, left⟩ := result
      rw [hrun] at hended haccounted
      cases hended
      exact ⟨hfew, after, left, rfl, haccounted⟩

end Client
end DatagramLink

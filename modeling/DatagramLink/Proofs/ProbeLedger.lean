import Mathlib.Data.List.Induction
import Mathlib.Data.List.Nodup
import DatagramLink.Proofs.ClientHistory
import DatagramLink.Proofs.EchoSession

/-!
# The books of a client's probes

`Books` say which probes a client was asked for and what became of each of them.  They are
kept by watching the client from outside: when one of its counts has grown in a step, the
probes that it no longer waits for are entered under that fate, with the message that
it heard in the step.

Whatever the calls and whatever the datagrams, the books balance.  The invariant behind
it is that the probes asked for are those entered and those still awaited, up to order.
Identifiers are numbers in order, so they do not repeat as long as they do not run out;
then an echo settles one probe, and never one that was settled before.
-/

namespace DatagramLink

/-! ## Entries -/

/-- What may become of a probe. -/
inductive Fate where
  | echoed
  | corrupted
  | lost
  deriving DecidableEq, Repr

namespace Fate

def all : List Fate := [.echoed, .corrupted, .lost]

end Fate

def ProbeStats.count (s : ProbeStats) : Fate → Nat
  | .echoed => s.echoed
  | .corrupted => s.corrupted
  | .lost => s.lost

def Probe.payload (p : Probe) : ByteArray := probePayload p.id p.size

structure Entry where
  fate : Fate
  probe : Probe
  /-- What the client heard when the probe was entered. -/
  message : Option Message
  deriving DecidableEq

/-- What was heard bears out what became of the probe. -/
def Entry.Rightful (e : Entry) : Prop :=
  match e.fate with
  | .echoed => ∃ timestamp, e.message = some (.echo e.probe.id timestamp e.probe.payload)
  | .corrupted =>
      ∃ timestamp payload,
        e.message = some (.echo e.probe.id timestamp payload) ∧ payload ≠ e.probe.payload
  | .lost => e.message = none

namespace Client

/-- The probes that a client waited for and no longer does. -/
def gone (before after : Client) : List Probe :=
  before.inFlight.filter fun p => p ∉ after.inFlight

/-- An entry for each probe gone, under every fate whose count has grown. -/
def settled (before after : Client) (message : Option Message) : List Entry :=
  (Fate.all.filter fun o => before.stats.count o < after.stats.count o).flatMap fun o =>
    (before.gone after).map fun p => ⟨o, p, message⟩

/-- The message that a datagram completes for a client, if it is one. -/
def heard? (c : Client) (source : Address) (datagram : ByteArray) : Option Message :=
  if isConnectionless datagram then none
  else do
    let channel ← c.channel
    let message ← (channel.receive source (.ofBytes datagram)).1.message?
    (Message.decode message).toOption

inductive Call where
  | withFragmentsPerTick (count : Nat)
  | connect (h : Hub) (now : Instant)
  | sendProbe (size : Nat) (clock : UInt64)
  | tick (h : Hub) (now : Instant) (clock : UInt64)
  | disconnect (h : Hub) (now : Instant)

end Client

/-! ## Books -/

/-- What is known about the probes of a client. -/
structure Books where
  client : Client
  /-- The probes that the client was asked for and gave an identifier. -/
  issued : List Probe := []
  entries : List Entry := []

namespace Books

def opened (server : Address) (qport : UInt16) : Books := { client := .new server qport }

/-- A step of the client, in which it heard at most one message. -/
def settle (b : Books) (after : Client) (message : Option Message) : Books :=
  { b with client := after, entries := b.entries ++ b.client.settled after message }

def hear (clock : UInt64) : Books × Hub → Hub.Poll → Books × Hub
  | (b, h), poll =>
      let heard? := poll.found.bind fun (source, datagram) => b.client.heard? source datagram
      match Client.handlePoll clock (b.client, h) poll with
      | (after, rest) => (b.settle after heard?, rest)

def hearAll (b : Books) (h : Hub) (clock : UInt64) : Books × Hub :=
  match h.drain .client with
  | (polls, h) => polls.foldl (hear clock) (b, h)

def ask (b : Books) (size : Nat) (clock : UInt64) : Books :=
  match b.client.sendProbe size clock with
  | .ok (id?, after) =>
      { client := after
        issued := b.issued ++ id?.toList.map (⟨·, size⟩)
        entries := b.entries ++ b.client.settled after none }
  | .error _ => b

/-- The books after a call.  A call that a fault stops leaves the client that it reached. -/
def next (b : Books) : Client.Call → Books
  | .withFragmentsPerTick count => b.settle (b.client.withFragmentsPerTick count) none
  | .connect h now => b.settle (b.client.connect h now).reached.1 none
  | .sendProbe size clock => b.ask size clock
  | .tick h now clock =>
      (b.hearAll h clock).1.settle (b.client.tick h now clock).reached.1 none
  | .disconnect h now => b.settle (b.client.disconnect h now).reached.1 none

def run (b : Books) (calls : List Client.Call) : Books := calls.foldl next b

def under (b : Books) (o : Fate) : List Entry := b.entries.filter (·.fate = o)

/-- The entries agree with what the client has counted. -/
structure Kept (b : Books) : Prop where
  sent : b.client.stats.sent = b.issued.length
  counted : ∀ o, b.client.stats.count o = (b.under o).length
  /-- Every probe is entered or awaited, and no other is. -/
  settled : b.issued.Perm (b.entries.map Entry.probe ++ b.client.inFlight)
  bytes : b.client.stats.bytesEchoed = ((b.under .echoed).map (·.probe.size)).sum
  rightful : ∀ e ∈ b.entries, e.Rightful

structure Balanced (b : Books) : Prop extends b.Kept where
  total : b.client.stats.sent =
    b.client.stats.echoed + b.client.stats.corrupted + b.client.stats.lost +
      b.client.inFlight.length
  /-- No identifier is entered twice, or awaited once it is entered. -/
  once : ((b.entries.map Entry.probe ++ b.client.inFlight).map Probe.id).Nodup

theorem run_snoc (b : Books) (calls : List Client.Call) (call : Client.Call) :
    b.run (calls ++ [call]) = (b.run calls).next call := by
  simp [run]

theorem length_entries (entries : List Entry) :
    entries.length =
      (entries.filter (·.fate = .echoed)).length +
        (entries.filter (·.fate = .corrupted)).length +
        (entries.filter (·.fate = .lost)).length := by
  induction entries with
  | nil => rfl
  | cons e entries ih =>
      cases hfate : e.fate with
      | echoed =>
          simp [hfate]
          omega
      | corrupted =>
          simp [hfate]
          omega
      | lost =>
          simp [hfate]
          omega

end Books

/-! ## Steps -/

namespace Client

/-- A step in which nothing becomes of any probe. -/
structure SameProbes (before after : Client) : Prop where
  inFlight : after.inFlight = before.inFlight
  nextProbe : after.nextProbe = before.nextProbe
  stats : after.stats = before.stats

/-- A step in which some probes meet one fate. -/
structure Settles (before after : Client) (o : Fate) : Prop where
  nextProbe : after.nextProbe = before.nextProbe
  sent : after.stats.sent = before.stats.sent
  awaited : before.inFlight.Perm (before.gone after ++ after.inFlight)
  counted : ∀ other, after.stats.count other =
    before.stats.count other + if other = o then (before.gone after).length else 0
  bytes : after.stats.bytesEchoed =
    before.stats.bytesEchoed + if o = .echoed then ((before.gone after).map Probe.size).sum else 0

section
variable {c before middle after : Client} {o : Fate}

theorem SameProbes.refl (c : Client) : c.SameProbes c := ⟨rfl, rfl, rfl⟩

theorem SameProbes.trans (hfirst : before.SameProbes middle)
    (hlast : middle.SameProbes after) : before.SameProbes after where
  inFlight := hlast.inFlight.trans hfirst.inFlight
  nextProbe := hlast.nextProbe.trans hfirst.nextProbe
  stats := hlast.stats.trans hfirst.stats

theorem SameProbes.gone_eq_nil (hsame : before.SameProbes after) : before.gone after = [] := by
  simp [Client.gone, hsame.inFlight]

theorem SameProbes.settles (hsame : before.SameProbes after) (o : Fate) :
    before.Settles after o where
  nextProbe := hsame.nextProbe
  sent := congrArg ProbeStats.sent hsame.stats
  awaited := by simp [hsame.gone_eq_nil, hsame.inFlight]
  counted := by simp [hsame.gone_eq_nil, hsame.stats]
  bytes := by simp [hsame.gone_eq_nil, hsame.stats]

theorem Settles.settled_eq (hsettles : before.Settles after o) (message : Option Message) :
    before.settled after message = (before.gone after).map fun p => ⟨o, p, message⟩ := by
  by_cases hnone : before.gone after = []
  · simp [settled, hnone]
  · have hpos : 0 < (before.gone after).length := List.length_pos_iff.mpr hnone
    have hgrown : Fate.all.filter
        (fun other => before.stats.count other < after.stats.count other) = [o] := by
      simp only [hsettles.counted]
      cases o <;> simp [Fate.all, hpos]
    simp [settled, hgrown]

/-! ## Handling a datagram -/

theorem filter_id {probes : List Probe} (hdistinct : (probes.map Probe.id).Nodup)
    {p : Probe} (hp : p ∈ probes) :
    probes.filter (·.id == p.id) = [p] := by
  induction probes with
  | nil => cases hp
  | cons first probes ih =>
      rw [List.map_cons, List.nodup_cons] at hdistinct
      obtain ⟨hfresh, hdistinct⟩ := hdistinct
      rcases List.mem_cons.mp hp with rfl | hp
      · have hothers : probes.filter (·.id == p.id) = [] := by
          rw [List.filter_eq_nil_iff]
          intro other hother hsame
          apply hfresh
          rw [← beq_iff_eq.mp hsame]
          exact List.mem_map_of_mem hother
        simp [hothers]
      · have hne : first.id ≠ p.id := by
          intro hsame
          rw [hsame] at hfresh
          exact hfresh (List.mem_map_of_mem hp)
        simp [hne, ih hdistinct hp]

theorem gone_of_filter {p : Probe} (hdistinct : (before.inFlight.map Probe.id).Nodup)
    (hp : p ∈ before.inFlight)
    (hafter : after.inFlight = before.inFlight.filter (·.id != p.id)) :
    before.gone after = [p] := by
  rw [← filter_id hdistinct hp, gone, hafter]
  apply List.filter_congr
  intro q hq
  simp [hq, beq_eq_decide]

theorem answers_iff {p : Probe} {payload : ByteArray} :
    answers p payload = true ↔ payload = p.payload := by
  constructor
  · intro hanswers
    rw [answers, Bool.and_eq_true] at hanswers
    exact beq_iff_eq.mp hanswers.2
  · rintro rfl
    simp [answers, Probe.payload]

/-- Nothing becomes of any probe, or what is heard bears out what does. -/
def Accounts (before after : Client) (message : Option Message) : Prop :=
  ∃ o, before.Settles after o ∧
    ∀ p ∈ before.gone after, (⟨o, p, message⟩ : Entry).Rightful

theorem SameProbes.accounts (hsame : before.SameProbes after) (message : Option Message) :
    before.Accounts after message := by
  refine ⟨.lost, hsame.settles .lost, ?_⟩
  simp [hsame.gone_eq_nil]

theorem SameProbes.accounts_of {message : Option Message}
    (hsame : before.SameProbes middle) (haccounts : middle.Accounts after message) :
    before.Accounts after message := by
  obtain ⟨o, hsettles, hrightful⟩ := haccounts
  have hgone : middle.gone after = before.gone after := by
    rw [gone, hsame.inFlight, gone]
  rw [hgone] at hrightful
  refine ⟨o, ?_, hrightful⟩
  constructor
  · exact hsettles.nextProbe.trans hsame.nextProbe
  · rw [hsettles.sent, hsame.stats]
  · rw [← hgone, ← hsame.inFlight]
    exact hsettles.awaited
  · intro other
    rw [hsettles.counted, hgone, hsame.stats]
  · rw [hsettles.bytes, hgone, hsame.stats]

/-- A client that stops waiting for one probe. -/
theorem accounts_of_filter {p : Probe} {message : Option Message}
    (hdistinct : (before.inFlight.map Probe.id).Nodup) (hp : p ∈ before.inFlight)
    (hafter : after.inFlight = before.inFlight.filter (·.id != p.id))
    (hnext : after.nextProbe = before.nextProbe) (hsent : after.stats.sent = before.stats.sent)
    (hcounted : ∀ other, after.stats.count other =
      before.stats.count other + if other = o then 1 else 0)
    (hbytes : after.stats.bytesEchoed =
      before.stats.bytesEchoed + if o = .echoed then p.size else 0)
    (hrightful : (⟨o, p, message⟩ : Entry).Rightful) :
    before.Accounts after message := by
  have hgone := gone_of_filter hdistinct hp hafter
  have hsplit := List.filter_append_perm (·.id == p.id) before.inFlight
  rw [filter_id hdistinct hp] at hsplit
  refine ⟨o, ?_, ?_⟩
  · constructor
    · exact hnext
    · exact hsent
    · rw [hgone, hafter]
      exact hsplit.symm
    · simpa [hgone] using hcounted
    · simpa [hgone] using hbytes
  · simpa [hgone] using hrightful

end

variable {c : Client}

theorem accounts_handleEcho (hdistinct : (c.inFlight.map Probe.id).Nodup) (id : UInt32)
    (timestamp : UInt64) (payload : ByteArray) (clock : UInt64) :
    c.Accounts (c.handleEcho id timestamp payload clock).2
      (some (.echo id timestamp payload)) := by
  unfold handleEcho
  cases hfind : c.inFlight.find? (·.id == id) with
  | none => exact (SameProbes.refl c).accounts _
  | some p =>
      have hp : p ∈ c.inFlight := List.mem_of_find?_eq_some hfind
      have hid : p.id = id := by simpa using List.find?_some hfind
      subst id
      simp only [countEcho]
      by_cases hanswers : answers p payload = true
      · rw [if_pos hanswers]
        have hcame : payload = p.payload := answers_iff.mp hanswers
        subst payload
        refine accounts_of_filter (o := .echoed) hdistinct hp rfl rfl rfl ?_ rfl
          ⟨timestamp, rfl⟩
        intro other
        cases other <;> rfl
      · rw [if_neg hanswers]
        have hother : payload ≠ p.payload := mt answers_iff.mpr hanswers
        refine accounts_of_filter (o := .corrupted) hdistinct hp rfl rfl rfl ?_ rfl
          ⟨timestamp, payload, rfl, hother⟩
        intro other
        cases other <;> rfl

theorem accounts_handleMessage (hdistinct : (c.inFlight.map Probe.id).Nodup)
    (message : ByteArray) (clock : UInt64) :
    c.Accounts (c.handleMessage message clock).2 (Message.decode message).toOption := by
  unfold handleMessage
  cases hdecode : Message.decode message with
  | error e => exact (SameProbes.refl c).accounts _
  | ok heard =>
      cases heard with
      | probe id timestamp payload => exact (SameProbes.refl c).accounts _
      | echo id timestamp payload =>
          exact accounts_handleEcho hdistinct id timestamp payload clock
      | disconnect reason =>
          have hleft : c.SameProbes { c with phase := .disconnected, channel := none } :=
            ⟨rfl, rfl, rfl⟩
          exact hleft.accounts _

theorem sameProbes_handleCommand (c : Client) (showDrops : Bool) (command : Command) :
    c.SameProbes (c.handleCommand showDrops command).2 := by
  unfold handleCommand handleConnected
  split
  · split
    · split <;> exact ⟨rfl, rfl, rfl⟩
    · exact .refl c
  · exact ⟨rfl, rfl, rfl⟩
  · exact ⟨rfl, rfl, rfl⟩
  · exact .refl c

theorem accounts_handle (hdistinct : (c.inFlight.map Probe.id).Nodup) (showDrops : Bool)
    (source : Address) (datagram : ByteArray) (clock : UInt64) :
    c.Accounts (c.handle showDrops source datagram clock).2 (c.heard? source datagram) := by
  unfold handle heard?
  by_cases hconnectionless : isConnectionless datagram = true
  · rw [if_pos hconnectionless, if_pos hconnectionless]
    apply SameProbes.accounts
    split
    · cases Command.ofDatagram? datagram with
      | none => exact .refl c
      | some command => exact c.sameProbes_handleCommand showDrops command
    · exact .refl c
  · rw [if_neg hconnectionless, if_neg hconnectionless]
    cases hchannel : c.channel with
    | none => exact (SameProbes.refl c).accounts _
    | some channel =>
        simp only [handleSequenced]
        cases hreceive : channel.receive source (.ofBytes datagram) with
        | mk receipt channel' =>
            have hreceived : c.SameProbes { c with channel := some channel' } := ⟨rfl, rfl, rfl⟩
            cases hmessage : receipt.message? with
            | none => simpa [hreceive, hmessage] using hreceived.accounts none
            | some message =>
                have hread := accounts_handleMessage (c := { c with channel := some channel' })
                  hdistinct message clock
                simpa [hreceive, hmessage] using hreceived.accounts_of hread

/-! ## Sending and leaving -/

theorem sameProbes_sendConnect (c : Client) (h : Hub) (now : Instant) :
    c.SameProbes (c.sendConnect h now).reached.1 := by
  unfold sendConnect
  split
  · exact ⟨rfl, rfl, rfl⟩
  · exact .refl c

theorem sameProbes_connect (c : Client) (h : Hub) (now : Instant) :
    c.SameProbes (c.connect h now).reached.1 := by
  have hsame := sameProbes_sendConnect { c with phase := .connecting }
    (h.report [.info s!"Connecting to {c.server}..."]) now
  exact ⟨hsame.inFlight, hsame.nextProbe, hsame.stats⟩

theorem sameProbes_pump (c : Client) (h : Hub) (now : Instant) :
    c.SameProbes (c.pump h now).reached.1 := by
  unfold pump
  split
  · exact .refl c
  · exact ⟨rfl, rfl, rfl⟩

theorem sameProbes_tick (c : Client) (h : Hub) (now : Instant) (clock : UInt64) :
    (c.receiveAll h clock).1.SameProbes (c.tick h now clock).reached.1 := by
  unfold tick
  cases hreceive : c.receiveAll h clock with
  | mk c₁ h₁ =>
      let P : Client × Hub → Prop := fun x => c₁.SameProbes x.1
      have hresent : P (c₁.resendConnect h₁ now).reached := by
        unfold resendConnect
        split
        · exact c₁.sameProbes_sendConnect _ now
        · exact .refl c₁
      apply Attempt.andThen_reached (P := P)
      · apply Attempt.andThen_reached (P := P) hresent
        intro x hx
        exact SameProbes.trans hx (x.1.sameProbes_pump x.2 now)
      · exact fun x hx => hx

theorem sameProbes_sendFarewell (c : Client) (h : Hub) (now : Instant) :
    c.SameProbes (c.sendFarewell h now).reached.1 := by
  obtain ⟨channel, hself⟩ := c.sendFarewell_reached h now
  rw [hself]
  exact ⟨rfl, rfl, rfl⟩

theorem settles_reset {c after : Client} (hsame : c.SameProbes after) :
    c.Settles after.reset .lost := by
  have hgone : c.gone after.reset = c.inFlight := by simp [gone, reset]
  constructor
  · exact hsame.nextProbe
  · rw [← hsame.stats]
    rfl
  · rw [hgone]
    simp [reset]
  · intro other
    rw [hgone, ← hsame.stats, ← hsame.inFlight]
    cases other <;> rfl
  · rw [← hsame.stats]
    rfl

/-- A client that gets to leave is reset, and until then nothing becomes of its probes. -/
theorem disconnect_cases (c : Client) (h : Hub) (now : Instant) :
    ∃ told : Client, c.SameProbes told ∧
      ((c.disconnect h now).reached.1 = told.reset ∨
        (c.disconnect h now).fault ≠ none ∧ (c.disconnect h now).reached.1 = told) := by
  refine ⟨_, c.sameProbes_sendFarewell h now, ?_⟩
  exact (c.disconnect_reached h now).imp_left And.right

theorem accounts_disconnect (c : Client) (h : Hub) (now : Instant) :
    c.Accounts (c.disconnect h now).reached.1 none := by
  obtain ⟨told, hsame, hreset | ⟨-, hstopped⟩⟩ := c.disconnect_cases h now
  · rw [hreset]
    exact ⟨.lost, settles_reset hsame, fun p hp => rfl⟩
  -- A client that a fault keeps from leaving still waits for its probes.
  · rw [hstopped]
    exact hsame.accounts none

end Client

/-! ## What balances the books -/

namespace Books

structure Sound (b : Books) : Prop extends b.Kept where
  /-- The first probe has the identifier 1, and each probe the next one. -/
  numbered : b.issued.map Probe.id =
    (List.range b.issued.length).map fun i => UInt32.ofNat (i + 1)
  nextProbe : b.client.nextProbe = UInt32.ofNat (b.issued.length + 1)

theorem nodup_numbers {count : Nat} (hfew : count ≤ 2 ^ 32) :
    ((List.range count).map fun i => UInt32.ofNat (i + 1)).Nodup := by
  apply List.Nodup.map_on _ List.nodup_range
  intro i hi j hj hsame
  rw [List.mem_range] at hi hj
  have hvalue := congrArg UInt32.toNat hsame
  rw [UInt32.toNat_ofNat', UInt32.toNat_ofNat'] at hvalue
  omega

section
variable {b : Books} {after : Client} {message : Option Message}

theorem Sound.once (hsound : b.Sound) (hfew : b.issued.length ≤ 2 ^ 32) :
    ((b.entries.map Entry.probe ++ b.client.inFlight).map Probe.id).Nodup := by
  have hnumbers := nodup_numbers hfew
  rw [← hsound.numbered] at hnumbers
  exact (hsound.settled.map Probe.id).nodup_iff.mp hnumbers

theorem Sound.distinct (hsound : b.Sound) (hfew : b.issued.length ≤ 2 ^ 32) :
    (b.client.inFlight.map Probe.id).Nodup := by
  have honce := hsound.once hfew
  rw [List.map_append] at honce
  exact honce.of_append_right

theorem Sound.balanced (hsound : b.Sound) (hfew : b.issued.length ≤ 2 ^ 32) :
    b.Balanced where
  toKept := hsound.toKept
  total := by
    have hlength := hsound.settled.length_eq
    have hentries := length_entries b.entries
    have hechoed : b.client.stats.echoed = _ := hsound.counted .echoed
    have hcorrupted : b.client.stats.corrupted = _ := hsound.counted .corrupted
    have hlost : b.client.stats.lost = _ := hsound.counted .lost
    rw [List.length_append, List.length_map] at hlength
    rw [hsound.sent, hechoed, hcorrupted, hlost, hlength, hentries]
    rfl
  once := hsound.once hfew

theorem sound_opened (server : Address) (qport : UInt16) : (opened server qport).Sound where
  numbered := rfl
  nextProbe := rfl
  sent := rfl
  counted := by
    intro o
    cases o <;> rfl
  settled := .nil
  bytes := rfl
  rightful := by simp [opened]

theorem Kept.settle (hkept : b.Kept) (haccounts : b.client.Accounts after message) :
    (b.settle after message).Kept := by
  obtain ⟨o, hsettles, hrightful⟩ := haccounts
  have hentries : (b.settle after message).entries =
      b.entries ++ (b.client.gone after).map fun p => ⟨o, p, message⟩ := by
    rw [Books.settle, hsettles.settled_eq]
  have hunder : ∀ other, (b.settle after message).under other =
      b.under other ++ if other = o then
        (b.client.gone after).map fun p => ⟨o, p, message⟩ else [] := by
    intro other
    rw [under, hentries, List.filter_append, under]
    by_cases hother : other = o
    · simp [hother]
    · simp [hother, Ne.symm hother]
  constructor
  · exact hsettles.sent.trans hkept.sent
  · intro other
    have hcount := hsettles.counted other
    rw [hkept.counted] at hcount
    rw [hunder]
    by_cases hother : other = o <;> simpa [Books.settle, hother] using hcount
  · have hawaited := hsettles.awaited.append_left (b.entries.map Entry.probe)
    rw [hentries]
    simpa [Books.settle, Function.comp_def] using hkept.settled.trans hawaited
  · have hbytes := hsettles.bytes
    rw [hkept.bytes] at hbytes
    rw [hunder]
    by_cases hechoed : o = .echoed
    · simpa [Books.settle, hechoed, Function.comp_def] using hbytes
    · simpa [Books.settle, hechoed, Ne.symm hechoed] using hbytes
  · rw [hentries]
    intro e he
    rcases List.mem_append.mp he with hold | hnew
    · exact hkept.rightful e hold
    · obtain ⟨p, hp, rfl⟩ := List.mem_map.mp hnew
      exact hrightful p hp

theorem Sound.settle (hsound : b.Sound) (haccounts : b.client.Accounts after message) :
    (b.settle after message).Sound where
  toKept := hsound.toKept.settle haccounts
  numbered := hsound.numbered
  nextProbe := by
    obtain ⟨o, hsettles, hrightful⟩ := haccounts
    exact hsettles.nextProbe.trans hsound.nextProbe

theorem Sound.hear (hsound : b.Sound) (hfew : b.issued.length ≤ 2 ^ 32) (h : Hub)
    (poll : Hub.Poll) (clock : UInt64) : (hear clock (b, h) poll).1.Sound := by
  apply hsound.settle
  cases hfound : poll.found with
  | none => exact (Client.SameProbes.refl b.client).accounts none
  | some found =>
      exact Client.accounts_handle (hsound.distinct hfew) h.settings.showDrops found.1 found.2
        clock

theorem Sound.foldl_hear (hsound : b.Sound) (hfew : b.issued.length ≤ 2 ^ 32) (h : Hub)
    (polls : List Hub.Poll) (clock : UInt64) :
    (polls.foldl (Books.hear clock) (b, h)).1.Sound := by
  induction polls generalizing b h with
  | nil => exact hsound
  | cons poll polls ih =>
      rw [List.foldl_cons]
      exact ih (hsound.hear hfew h poll clock) hfew _

theorem client_hearAll (b : Books) (h : Hub) (clock : UInt64) :
    (b.hearAll h clock).1.client = (b.client.receiveAll h clock).1 := by
  unfold hearAll Client.receiveAll
  cases h.drain .client with
  | mk polls rest =>
      let forget : Books × Hub → Client × Hub := fun x => (x.1.client, x.2)
      have hfold : polls.foldl (Client.handlePoll clock) (forget (b, rest)) =
          forget (polls.foldl (Books.hear clock) (b, rest)) :=
        List.foldl_hom forget fun _ _ => rfl
      exact (congrArg Prod.fst hfold).symm

theorem Sound.tick (hsound : b.Sound) (hfew : b.issued.length ≤ 2 ^ 32) (h : Hub)
    (now : Instant) (clock : UInt64) : (b.next (.tick h now clock)).Sound := by
  have hheard : (b.hearAll h clock).1.Sound := hsound.foldl_hear hfew _ _ clock
  have hrest := b.client.sameProbes_tick h now clock
  rw [← client_hearAll] at hrest
  exact hheard.settle (hrest.accounts none)

theorem Sound.fresh (hsound : b.Sound) (hfew : b.issued.length < 2 ^ 32) :
    ∀ p ∈ b.client.inFlight, ¬ p.id = b.client.nextProbe := by
  -- The identifier to come continues the numbers, so it is fresh even where it wraps to 0.
  have hnumbers := nodup_numbers (Nat.succ_le_of_lt hfew)
  rw [List.range_succ, List.map_append, ← hsound.numbered, List.map_singleton,
    ← hsound.nextProbe] at hnumbers
  intro p hp hsame
  have hissued : p ∈ b.issued := hsound.settled.mem_iff.mpr (List.mem_append_right _ hp)
  have hapart := (List.nodup_append.mp hnumbers).2.2 p.id (List.mem_map_of_mem hissued)
    b.client.nextProbe (List.mem_singleton_self _)
  exact hapart hsame

theorem issued_ask {size : Nat} {clock : UInt64} (hconnected : b.client.isConnected = true)
    (hsize : size ≤ maxPayloadSize) :
    (b.ask size clock).issued = b.issued ++ [⟨b.client.nextProbe, size⟩] := by
  simp [ask, Client.sendProbe, hconnected, Nat.not_lt.mpr hsize]

theorem ask_eq {size : Nat} (hconnected : b.client.isConnected = true)
    (hsize : size ≤ maxPayloadSize)
    (hfresh : ∀ p ∈ b.client.inFlight, ¬ p.id = b.client.nextProbe) (clock : UInt64) :
    ∃ queue,
      b.ask size clock =
        { client :=
            { b.client with
              inFlight := b.client.inFlight ++ [⟨b.client.nextProbe, size⟩]
              stats := b.client.stats.countSent
              nextProbe := b.client.nextProbe + 1
              queue }
          issued := b.issued ++ [⟨b.client.nextProbe, size⟩]
          entries := b.entries } := by
  refine ⟨b.client.queue ++ [Sample.probe ⟨b.client.nextProbe, clock, size⟩], ?_⟩
  rw [ask, Client.sendProbe_eq hconnected hsize hfresh clock]
  simp [Client.settled, Fate.all, ProbeStats.count, ProbeStats.countSent, Sample.awaited]

theorem length_issued_ask (b : Books) (size : Nat) (clock : UInt64) :
    b.issued.length ≤ (b.ask size clock).issued.length := by
  unfold ask
  cases b.client.sendProbe size clock <;> simp

theorem Sound.ask_connected (hsound : b.Sound) {size : Nat}
    (hconnected : b.client.isConnected = true) (hsize : size ≤ maxPayloadSize)
    (clock : UInt64) (hfew : (b.ask size clock).issued.length ≤ 2 ^ 32) :
    (b.ask size clock).Sound := by
  have hasked : b.issued.length < 2 ^ 32 := by
    rw [issued_ask hconnected hsize, List.length_append, List.length_singleton] at hfew
    omega
  obtain ⟨queue, hask⟩ := ask_eq hconnected hsize (hsound.fresh hasked) clock
  have hnext : b.client.nextProbe + 1 = UInt32.ofNat (b.issued.length + 1 + 1) := by
    rw [hsound.nextProbe, UInt32.ofNat_add (b.issued.length + 1) 1]
    rfl
  have hadded := hsound.settled.append_right [⟨b.client.nextProbe, size⟩]
  rw [hask]
  constructor
  · constructor
    · simp [ProbeStats.countSent, hsound.sent]
    · intro o
      have hcount := hsound.counted o
      cases o <;> exact hcount
    · simpa using hadded
    · exact hsound.bytes
    · exact hsound.rightful
  · simp [List.range_succ, hsound.numbered, hsound.nextProbe]
  · simp [hnext]

theorem Sound.ask (hsound : b.Sound) {size : Nat} {clock : UInt64}
    (hfew : (b.ask size clock).issued.length ≤ 2 ^ 32) : (b.ask size clock).Sound := by
  by_cases hconnected : b.client.isConnected = true
  · by_cases hsize : size ≤ maxPayloadSize
    · exact hsound.ask_connected hconnected hsize clock hfew
    · have hrefuse : b.client.sendProbe size clock = .error .payloadTooLong := by
        simp [Client.sendProbe, hconnected, Nat.lt_of_not_le hsize]
      simpa [Books.ask, hrefuse] using hsound
  · have hskip : b.client.sendProbe size clock = .ok (none, b.client) := by
      simp [Client.sendProbe, hconnected]
    have hnothing : b.ask size clock = b.settle b.client none := by
      simp [Books.ask, hskip, Books.settle]
    rw [hnothing]
    exact hsound.settle ((Client.SameProbes.refl b.client).accounts none)

end

/-! ## Runs -/

variable {server : Address} {qport : UInt16}

theorem issued_foldl_hear (polls : List Hub.Poll) (clock : UInt64) (x : Books × Hub) :
    (polls.foldl (hear clock) x).1.issued = x.1.issued := by
  induction polls generalizing x with
  | nil => rfl
  | cons poll polls ih => exact ih (hear clock x poll)

theorem issued_tick (b : Books) (h : Hub) (now : Instant) (clock : UInt64) :
    (b.next (.tick h now clock)).issued = b.issued :=
  issued_foldl_hear _ clock _

theorem length_issued_next (b : Books) (call : Client.Call) :
    b.issued.length ≤ (b.next call).issued.length := by
  cases call with
  | sendProbe size clock => exact b.length_issued_ask size clock
  | tick h now clock => rw [issued_tick]
  | _ => exact le_rfl

theorem Sound.next {b : Books} (hsound : b.Sound) (call : Client.Call)
    (hfew : (b.next call).issued.length ≤ 2 ^ 32) : (b.next call).Sound := by
  have hbefore : b.issued.length ≤ 2 ^ 32 := (b.length_issued_next call).trans hfew
  cases call with
  | withFragmentsPerTick count =>
      have hset : b.client.SameProbes (b.client.withFragmentsPerTick count) := ⟨rfl, rfl, rfl⟩
      exact hsound.settle (hset.accounts none)
  | connect h now => exact hsound.settle ((b.client.sameProbes_connect h now).accounts none)
  | sendProbe size clock => exact hsound.ask hfew
  | tick h now clock => exact hsound.tick hbefore h now clock
  | disconnect h now => exact hsound.settle (b.client.accounts_disconnect h now)

theorem sound_run (server : Address) (qport : UInt16) (calls : List Client.Call)
    (hfew : ((opened server qport).run calls).issued.length ≤ 2 ^ 32) :
    ((opened server qport).run calls).Sound := by
  induction calls using List.reverseRecOn with
  | nil => exact sound_opened server qport
  | append_singleton calls call ih =>
      rw [run_snoc] at hfew ⊢
      exact (ih ((length_issued_next _ call).trans hfew)).next call hfew

/-- The clients that books are kept of are all that may come about. -/
theorem history_iff {c : Client} :
    Client.History server qport c ↔
      ∃ calls, ((opened server qport).run calls).client = c := by
  constructor
  · intro hhistory
    induction hhistory with
    | new => exact ⟨[], rfl⟩
    | withFragmentsPerTick count hhistory ih =>
        obtain ⟨calls, rfl⟩ := ih
        exact ⟨calls ++ [.withFragmentsPerTick count], by rw [run_snoc]; rfl⟩
    | connect h now hhistory ih =>
        obtain ⟨calls, rfl⟩ := ih
        exact ⟨calls ++ [.connect h now], by rw [run_snoc]; rfl⟩
    | @sendProbe c after size clock id? hhistory hsend ih =>
        obtain ⟨calls, rfl⟩ := ih
        exact ⟨calls ++ [.sendProbe size clock], by simp only [run_snoc, next, ask, hsend]⟩
    | tick h now clock hhistory ih =>
        obtain ⟨calls, rfl⟩ := ih
        exact ⟨calls ++ [.tick h now clock], by rw [run_snoc]; rfl⟩
    | disconnect h now hhistory ih =>
        obtain ⟨calls, rfl⟩ := ih
        exact ⟨calls ++ [.disconnect h now], by rw [run_snoc]; rfl⟩
  · rintro ⟨calls, rfl⟩
    induction calls using List.reverseRecOn with
    | nil => exact .new
    | append_singleton calls call ih =>
        rw [run_snoc]
        cases call with
        | withFragmentsPerTick count => exact ih.withFragmentsPerTick count
        | connect h now => exact ih.connect h now
        | sendProbe size clock =>
            rw [next, ask]
            cases hsend : ((opened server qport).run calls).client.sendProbe size clock with
            | error fault => exact ih
            | ok asked => exact ih.sendProbe hsend
        | tick h now clock => exact ih.tick h now clock
        | disconnect h now => exact ih.disconnect h now

/-- Whatever a client is asked to do and whatever it hears, every probe is counted under one
fate or still awaited.  Those that are counted as echoed came back with their own payload,
and their sizes add up to the bytes that are counted. -/
theorem balanced_run (server : Address) (qport : UInt16) (calls : List Client.Call)
    (hfew : ((opened server qport).run calls).issued.length ≤ 2 ^ 32) :
    ((opened server qport).run calls).Balanced :=
  (sound_run server qport calls hfew).balanced hfew

/-- A client sends three probes.  One comes back as it left, one comes back with another
payload, and the client leaves before the third one does. -/
theorem balanced_run_of_three_fates :
    let bare : Hub := .loopbackOnly { qport := 1 }
    let welcome : Hub := bare.setRing .client (Ring.empty.push (connectResponse 1).toDatagram)
    let intact : Message := .echo 1 0 (probePayload 1 3)
    let changed : Message := .echo 2 0 "other".toUTF8
    let answers : Hub := bare.setRing .client
      ((Ring.empty.push (Packet.whole none 1 intact.encode).bytes).push
        (Packet.whole none 2 changed.encode).bytes)
    let calls : List Client.Call :=
      [.connect bare 0, .tick welcome 0 0, .sendProbe 3 0, .sendProbe 5 0, .sendProbe 7 0,
        .tick answers 0 0, .disconnect bare 0]
    let books := (opened .loopback 1).run calls
    books.issued = [⟨1, 3⟩, ⟨2, 5⟩, ⟨3, 7⟩] ∧
      books.entries =
        [⟨.echoed, ⟨1, 3⟩, some intact⟩, ⟨.corrupted, ⟨2, 5⟩, some changed⟩,
          ⟨.lost, ⟨3, 7⟩, none⟩] ∧
      books.client.stats.lost = 1 ∧ books.issued.length ≤ 2 ^ 32 ∧ books.Balanced := by
  intro bare welcome intact changed answers calls books
  have hissued : books.issued = [⟨1, 3⟩, ⟨2, 5⟩, ⟨3, 7⟩] := by decide +kernel
  have hentries : books.entries =
      [⟨.echoed, ⟨1, 3⟩, some intact⟩, ⟨.corrupted, ⟨2, 5⟩, some changed⟩,
        ⟨.lost, ⟨3, 7⟩, none⟩] := by
    decide +kernel
  have hlost : books.client.stats.lost = 1 := by decide +kernel
  have hfew : books.issued.length ≤ 2 ^ 32 := by
    rw [hissued]
    decide
  exact ⟨hissued, hentries, hlost, hfew, balanced_run .loopback 1 calls hfew⟩

end Books
end DatagramLink

import DatagramLink.Proofs.SendingIndependence

/-!
# Strangers

Whatever others than its server send to a client, it is dropped before it touches anything
but the count of dropped datagrams and the reason for the last one.  And what a client does
with a datagram of its server depends on neither of these.  So of all that waits for a client
only its server's datagrams count.
-/

namespace DatagramLink

/-! ## Dropped datagrams forgotten -/

def Tally.forgetDrops (t : Tally) : Tally := { t with discarded := 0, lastDiscard := none }

def Incoming.forgetDrops (i : Incoming) : Incoming := { i with tally := i.tally.forgetDrops }

namespace Channel

/-- The channel without its count of dropped datagrams and the reason for the last one. -/
def forgetDrops (c : Channel) : Channel := c.withIncoming c.incoming.forgetDrops

/-- What a channel does with something received does not depend on its drops. -/
def IgnoresDrops (take : Channel → Receipt × Channel) : Prop :=
  ∀ c, (take c.forgetDrops).1.message? = (take c).1.message? ∧
    (take c.forgetDrops).2.forgetDrops = (take c).2.forgetDrops

theorem IgnoresDrops.congr {take : Channel → Receipt × Channel} (hignores : IgnoresDrops take)
    {c d : Channel} (hsame : c.forgetDrops = d.forgetDrops) :
    (take c).1.message? = (take d).1.message? ∧
      (take c).2.forgetDrops = (take d).2.forgetDrops := by
  obtain ⟨hmessage, hchannel⟩ := hignores c
  obtain ⟨hmessage', hchannel'⟩ := hignores d
  rw [← hmessage, ← hchannel, ← hmessage', ← hchannel', hsame]
  exact ⟨rfl, rfl⟩

theorem ignoresDrops_settle (source : Address) (sequence : UInt32) (isLast : Bool)
    (cursor : Cursor) :
    IgnoresDrops (·.settle source sequence isLast cursor) := by
  intro c
  cases isLast <;> exact ⟨rfl, rfl⟩

theorem ignoresDrops_appendFragment (source : Address) (sequence : UInt32)
    (fragment : Fragment) (cursor : Cursor) :
    IgnoresDrops (·.appendFragment source sequence fragment cursor) := by
  intro c
  have hassembly : c.forgetDrops.incoming.assembly = c.incoming.assembly := rfl
  simp only [appendFragment, hassembly]
  split
  · exact ⟨rfl, rfl⟩
  · split
    · exact ⟨rfl, rfl⟩
    · obtain ⟨cause | payload, left⟩ := cursor.read fragment.length.toNat
      · exact ⟨rfl, rfl⟩
      · exact ignoresDrops_settle source sequence fragment.isLast left (c.extend payload)

theorem gather_forgetDrops (c : Channel) (sequence : UInt32) :
    (c.forgetDrops.gather sequence).2.forgetDrops = (c.gather sequence).2.forgetDrops := by
  have hassembly : c.forgetDrops.incoming.assembly = c.incoming.assembly := rfl
  simp only [gather, abandon, hassembly]
  split
  · rfl
  · cases c.incoming.assembly <;> rfl

theorem ignoresDrops_receiveFragment (source : Address) (sequence : UInt32)
    (fragment : Fragment) (cursor : Cursor) :
    IgnoresDrops (·.receiveFragment source sequence fragment cursor) := by
  intro c
  simp only [receiveFragment]
  split
  · exact ⟨rfl, rfl⟩
  · have happend := (ignoresDrops_appendFragment source sequence fragment cursor).congr
      (c.gather_forgetDrops sequence)
    exact happend

theorem ignoresDrops_receiveWhole (source : Address) (sequence : UInt32) (cursor : Cursor) :
    IgnoresDrops (·.receiveWhole source sequence cursor) := by
  intro c
  have hassembly : c.forgetDrops.incoming.assembly = c.incoming.assembly := rfl
  simp only [receiveWhole, abandon, hassembly]
  cases c.incoming.assembly <;> exact ⟨rfl, rfl⟩

theorem ignoresDrops_receive (source : Address) (datagram : Cursor) :
    IgnoresDrops (·.receive source datagram) := by
  intro c
  have hside : c.forgetDrops.side = c.side := rfl
  have hrefusal : c.forgetDrops.refusal? source = c.refusal? source := rfl
  simp only [receive, hside, hrefusal]
  split
  · exact ⟨rfl, rfl⟩
  · obtain ⟨cause | header, cursor⟩ := Header.read (c.side == .server) datagram.rewind
    · exact ⟨rfl, rfl⟩
    · simp only
      cases c.refusal? source header with
      | some cause => exact ⟨rfl, rfl⟩
      | none =>
          cases header.fragment with
          | none => exact ignoresDrops_receiveWhole source header.sequence cursor c
          | some fragment =>
              exact ignoresDrops_receiveFragment source header.sequence fragment cursor c

/-- A client's end drops all that does not come from its peer's own address. -/
theorem receive_foreign {c : Channel} (hside : c.side = .client) {source : Address}
    (hforeign : source ≠ c.remote) (datagram : ByteArray) :
    (c.receive source (.ofBytes datagram)).1.message? = none ∧
      (c.receive source (.ofBytes datagram)).2.forgetDrops = c.forgetDrops := by
  obtain ⟨verdict, message?, after, -, hmessage, hafter, hreceives⟩ :=
    c.receives source datagram
  have hunknown : c.recognizes source = false := by
    simp [recognizes, hside, hforeign]
  rw [hmessage, hafter]
  cases hreceives with
  | ignored hconnectionless => exact ⟨rfl, rfl⟩
  | dropped hsequenced hdrops => exact ⟨rfl, rfl⟩
  | whole htakes => simp [htakes.recognized] at hunknown
  | misplaced htakes => simp [htakes.recognized] at hunknown
  | added htakes => simp [htakes.recognized] at hunknown
  | completed htakes => simp [htakes.recognized] at hunknown

end Channel

namespace Client

/-- The client without the drops of its channel. -/
def forgetDrops (c : Client) : Client := { c with channel := c.channel.map (·.forgetDrops) }

theorem forgetDrops_forgetDrops (c : Client) : c.forgetDrops.forgetDrops = c.forgetDrops := by
  unfold forgetDrops
  cases c.channel <;> rfl

/-! ## One datagram -/

theorem handleMessage_forgetDrops (c : Client) (message : ByteArray) (clock : UInt64) :
    (c.forgetDrops.handleMessage message clock).2 =
      (c.handleMessage message clock).2.forgetDrops := by
  unfold handleMessage
  cases Message.decode message with
  | error cause => rfl
  | ok content =>
      cases content with
      | probe id timestamp payload => rfl
      | disconnect reason => rfl
      | echo id timestamp payload =>
          have hflight : c.forgetDrops.inFlight = c.inFlight := rfl
          simp only [handleEcho, hflight]
          cases c.inFlight.find? (·.id == id) with
          | none => rfl
          | some probe =>
              simp only [countEcho]
              split <;> rfl

theorem handleSequenced_forgetDrops (c : Client) {channel channel' : Channel}
    (hsame : channel.forgetDrops = channel'.forgetDrops) (source : Address)
    (datagram : ByteArray) (clock : UInt64) :
    (c.handleSequenced channel source datagram clock).2.forgetDrops =
      (c.handleSequenced channel' source datagram clock).2.forgetDrops := by
  obtain ⟨hmessage, hafter⟩ :=
    (Channel.ignoresDrops_receive source (.ofBytes datagram)).congr hsame
  have hbefore : forgetDrops
        { c with channel := some (channel.receive source (.ofBytes datagram)).2 } =
      forgetDrops
        { c with channel := some (channel'.receive source (.ofBytes datagram)).2 } := by
    simp only [forgetDrops, Option.map_some, hafter]
  simp only [handleSequenced, hmessage]
  cases (channel'.receive source (.ofBytes datagram)).1.message? with
  | none => exact hbefore
  | some message => simp only [← handleMessage_forgetDrops, hbefore]

/-- What a client does with a datagram does not depend on the drops of its channel. -/
theorem handle_forgetDrops (c : Client) (showDrops : Bool) (source : Address)
    (datagram : ByteArray) (clock : UInt64) :
    (c.forgetDrops.handle showDrops source datagram clock).2.forgetDrops =
      (c.handle showDrops source datagram clock).2.forgetDrops := by
  have hserver : c.forgetDrops.server = c.server := rfl
  simp only [handle, hserver]
  split
  · split
    · cases Command.ofDatagram? datagram with
      | none => exact c.forgetDrops_forgetDrops
      | some command =>
          simp only [handleCommand]
          have hphase : c.forgetDrops.phase = c.phase := rfl
          split
          · simp only [handleConnected, hphase]
            split
            · cases (command.arg? 0).bind (Text.unsigned? 0xFFFFFFFF) with
              | none => exact c.forgetDrops_forgetDrops
              | some id => rfl
            · exact c.forgetDrops_forgetDrops
          · simp only [forgetDrops]
            cases c.channel <;> rfl
          · simp only [forgetDrops]
            cases c.channel <;> rfl
          · exact c.forgetDrops_forgetDrops
    · exact c.forgetDrops_forgetDrops
  · cases hchannel : c.channel with
    | none =>
        have hnone : c.forgetDrops.channel = none := by
          rw [forgetDrops, hchannel]
          rfl
        simp only [hnone]
        exact c.forgetDrops_forgetDrops
    | some channel =>
        have hsome : c.forgetDrops.channel = some channel.forgetDrops := by
          rw [forgetDrops, hchannel]
          rfl
        have hagain : channel.forgetDrops.forgetDrops = channel.forgetDrops := rfl
        simp only [hsome]
        exact handleSequenced_forgetDrops { c with channel := none } hagain source datagram
          clock

/-- A stranger's datagram leaves a client as it was, but for the drops of its channel. -/
theorem Steady.handle_foreign {server : Address} {qport : UInt16} {c : Client}
    (hsteady : Steady server qport c) {source : Address} (hforeign : source ≠ server)
    (showDrops : Bool) (datagram : ByteArray) (clock : UInt64) :
    (c.handle showDrops source datagram clock).2.forgetDrops = c.forgetDrops := by
  unfold Client.handle
  split
  · rw [hsteady.server, if_neg (by simpa using hforeign)]
  · cases hchannel : c.channel with
    | none => rfl
    | some channel =>
        have hend := hsteady.channel channel hchannel
        have hremote : source ≠ channel.remote := by
          rw [hend.remote, hsteady.server]
          exact hforeign
        obtain ⟨hmessage, hafter⟩ := Channel.receive_foreign hend.side hremote datagram
        simp only [handleSequenced, hmessage]
        simp only [forgetDrops, hchannel, Option.map_some, hafter]

/-! ## Everything that waits -/

/-- The client after some datagrams. -/
def listen (c : Client) (showDrops : Bool) (clock : UInt64)
    (found : List (Address × ByteArray)) : Client :=
  found.foldl (fun c x => (c.handle showDrops x.1 x.2 clock).2) c

theorem listen_congr {c d : Client} (hsame : c.forgetDrops = d.forgetDrops) (showDrops : Bool)
    (clock : UInt64) (found : List (Address × ByteArray)) :
    (c.listen showDrops clock found).forgetDrops =
      (d.listen showDrops clock found).forgetDrops := by
  induction found generalizing c d with
  | nil => exact hsame
  | cons x found ih =>
      refine ih ?_
      rw [← c.handle_forgetDrops, ← d.handle_forgetDrops, hsame]

/-- Only the server's datagrams count. -/
theorem Steady.listen_filter {server : Address} {qport : UInt16} {c : Client}
    (hsteady : Steady server qport c) (showDrops : Bool) (clock : UInt64)
    (found : List (Address × ByteArray)) :
    (c.listen showDrops clock found).forgetDrops =
      (c.listen showDrops clock (found.filter (·.1 == server))).forgetDrops := by
  induction found generalizing c with
  | nil => rfl
  | cons x found ih =>
      have hnext := ih (hsteady.handle showDrops x.1 x.2 clock)
      by_cases hserver : x.1 = server
      · rw [List.filter_cons_of_pos (by simpa using hserver)]
        exact hnext
      · rw [List.filter_cons_of_neg (by simpa using hserver)]
        refine hnext.trans (listen_congr ?_ showDrops clock _)
        exact hsteady.handle_foreign hserver showDrops x.2 clock

end Client
end DatagramLink

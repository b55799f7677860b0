import Mathlib.Algebra.Order.BigOperators.Group.List
import Mathlib.Algebra.Order.Group.Nat
import DatagramLink.Proofs.ServerCounts
import DatagramLink.Proofs.StrangerRuns

/-!
# What a client counts

A client's echoes and corrupted echoes are datagrams that it was given.  Its lost probes and those
that it awaits were issued, and so were the bytes of its echoes and of the probes that it awaits.
So over a hub without simulated loss and delay a client asks for nothing that a machine does not
have, until the number of datagrams and probes does not fit into 32 bits, or the bytes of its
probes do not fit into 64.
-/

namespace DatagramLink
namespace Client

/-! ## Bytes of probes -/

/-- The payload bytes of some probes. -/
def payloadBytes (probes : List Probe) : Nat := (probes.map Probe.size).sum

theorem payloadBytes_append (probes more : List Probe) :
    payloadBytes (probes ++ more) = payloadBytes probes + payloadBytes more := by
  rw [payloadBytes, List.map_append, List.sum_append]
  rfl

theorem payloadBytes_filter_le (keep : Probe → Bool) (probes : List Probe) :
    payloadBytes (probes.filter keep) ≤ payloadBytes probes :=
  (List.filter_sublist.map Probe.size).sum_le_sum fun size _ => Nat.zero_le size

/-- What is awaited after one probe was answered, and the answered one. -/
theorem payloadBytes_without {probe : Probe} {probes : List Probe} (hmem : probe ∈ probes) :
    payloadBytes (probes.filter (·.id != probe.id)) + probe.size ≤ payloadBytes probes := by
  obtain ⟨before, after, rfl⟩ := List.append_of_mem hmem
  have hbefore := payloadBytes_filter_le (·.id != probe.id) before
  have hafter := payloadBytes_filter_le (·.id != probe.id) after
  have hself : (probe :: after).filter (·.id != probe.id) =
      after.filter (·.id != probe.id) := by
    simp
  have hcons : payloadBytes (probe :: after) = probe.size + payloadBytes after := rfl
  rw [List.filter_append, hself, payloadBytes_append, payloadBytes_append, hcons]
  omega

end Client

/-! ## Statistics -/

/-- What the fates of `issued` probes with `bytes` bytes in all can be counted as, after `heard`
datagrams and while some probes are awaited. -/
structure ProbeStats.Within (heard issued bytes : Nat) (s : ProbeStats)
    (awaited : List Probe) : Prop where
  sent : s.sent ≤ issued
  echoed : s.echoed ≤ heard
  corrupted : s.corrupted ≤ heard
  lost : s.lost + awaited.length ≤ issued
  payload : s.bytesEchoed + Client.payloadBytes awaited ≤ bytes

theorem ProbeStats.Within.heardMore {heard issued bytes : Nat} {s : ProbeStats}
    {awaited : List Probe} (hwithin : s.Within heard issued bytes awaited) :
    s.Within (heard + 1) issued bytes awaited :=
  ⟨hwithin.sent, Nat.le_succ_of_le hwithin.echoed, Nat.le_succ_of_le hwithin.corrupted,
    hwithin.lost, hwithin.payload⟩

namespace Client

variable {heard issued bytes : Nat} {c : Client}

/-! ## One datagram -/

theorem within_handleEcho (hwithin : c.stats.Within heard issued bytes c.inFlight)
    (id : UInt32) (timestamp : UInt64) (payload : ByteArray) (clock : UInt64) :
    (c.handleEcho id timestamp payload clock).2.stats.Within (heard + 1) issued bytes
        (c.handleEcho id timestamp payload clock).2.inFlight ∧
      (c.handleEcho id timestamp payload clock).2.channel = c.channel ∧
      (c.handleEcho id timestamp payload clock).2.queue = c.queue := by
  obtain ⟨hsent, hechoed, hcorrupted, hlost, hpayload⟩ := hwithin
  unfold Client.handleEcho
  split
  · exact ⟨⟨hsent, Nat.le_succ_of_le hechoed, Nat.le_succ_of_le hcorrupted, hlost, hpayload⟩,
      rfl, rfl⟩
  · next probe hfind =>
      have hid : probe.id = id := by
        have hfound := List.find?_some hfind
        simpa using hfound
      have hfewer : (c.inFlight.filter (·.id != id)).length ≤ c.inFlight.length :=
        List.length_filter_le _ _
      have hless := payloadBytes_without (List.mem_of_find?_eq_some hfind)
      rw [hid] at hless
      unfold countEcho
      split
      · refine ⟨⟨hsent, Nat.succ_le_succ hechoed, Nat.le_succ_of_le hcorrupted, ?_, ?_⟩,
          rfl, rfl⟩
        · exact (Nat.add_le_add_left hfewer _).trans hlost
        · simp only [ProbeStats.countEcho]
          omega
      · refine ⟨⟨hsent, Nat.le_succ_of_le hechoed, Nat.succ_le_succ hcorrupted, ?_, ?_⟩,
          rfl, rfl⟩
        · exact (Nat.add_le_add_left hfewer _).trans hlost
        · simp only [ProbeStats.countCorrupted]
          omega

/-- A complete message is an echo of a probe, or it changes no counts. -/
theorem within_handleMessage (hwithin : c.stats.Within heard issued bytes c.inFlight)
    (message : ByteArray) (clock : UInt64) :
    (c.handleMessage message clock).2.stats.Within (heard + 1) issued bytes
        (c.handleMessage message clock).2.inFlight ∧
      ((c.handleMessage message clock).2.channel = c.channel ∨
        (c.handleMessage message clock).2.channel = none) ∧
      (c.handleMessage message clock).2.queue = c.queue := by
  have hmore := hwithin.heardMore
  unfold Client.handleMessage
  split
  · next id timestamp payload hdecode =>
      obtain ⟨hnext, hchannel, hqueue⟩ := within_handleEcho hwithin id timestamp payload clock
      exact ⟨hnext, Or.inl hchannel, hqueue⟩
  · exact ⟨hmore, Or.inr rfl, rfl⟩
  · exact ⟨hmore, Or.inl rfl, rfl⟩
  · exact ⟨hmore, Or.inl rfl, rfl⟩

/-- A client that was given `heard` datagrams, when it was to issue `issued` probes with `bytes`
bytes in all. -/
structure Counted (heard issued bytes : Nat) (c : Client) : Prop where
  channel : ∀ channel, c.channel = some channel →
    channel.Counted heard ∧ channel.side = .client
  sizable : ∀ message ∈ c.queue, Sizable message
  stats : c.stats.Within heard issued bytes c.inFlight

theorem counted_new (server : Address) (qport : UInt16) :
    (Client.new server qport).Counted 0 0 0 where
  channel := by
    intro channel hchannel
    cases hchannel
  sizable := by
    intro message hmessage
    cases hmessage
  stats := ⟨Nat.le_refl _, Nat.le_refl _, Nat.le_refl _, Nat.le_refl _, Nat.le_refl _⟩

theorem Counted.withFragmentsPerTick (hcounted : c.Counted heard issued bytes) (count : Nat) :
    (c.withFragmentsPerTick count).Counted heard issued bytes :=
  ⟨hcounted.channel, hcounted.sizable, hcounted.stats⟩

theorem Counted.heardMore (hcounted : c.Counted heard issued bytes) :
    c.Counted (heard + 1) issued bytes where
  channel := by
    intro channel hchannel
    obtain ⟨hkept, hside⟩ := hcounted.channel channel hchannel
    exact ⟨hkept.mono (Nat.le_succ _), hside⟩
  sizable := hcounted.sizable
  stats := hcounted.stats.heardMore

theorem Counted.handleCommand (hcounted : c.Counted heard issued bytes) (showDrops : Bool)
    (command : Command) :
    (c.handleCommand showDrops command).2.Counted heard issued bytes := by
  unfold Client.handleCommand
  split
  · unfold Client.handleConnected
    split
    · split
      · exact hcounted
      · refine ⟨fun channel hnew => ?_, hcounted.sizable, hcounted.stats⟩
        cases hnew
        exact ⟨(Channel.counted_new .client _ _ _).mono (Nat.zero_le _), rfl⟩
    · exact hcounted
  · exact ⟨hcounted.channel, hcounted.sizable, hcounted.stats⟩
  · exact ⟨hcounted.channel, hcounted.sizable, hcounted.stats⟩
  · exact hcounted

theorem Counted.handle (hcounted : c.Counted heard issued bytes) (showDrops : Bool)
    (source : Address) (datagram : ByteArray) (clock : UInt64) :
    (c.handle showDrops source datagram clock).2.Counted (heard + 1) issued bytes := by
  unfold Client.handle
  split
  · split
    · split
      · exact hcounted.heardMore
      · exact (hcounted.handleCommand showDrops _).heardMore
    · exact hcounted.heardMore
  · split
    · exact hcounted.heardMore
    · next channel hchannel =>
        obtain ⟨hkept, hside⟩ := hcounted.channel channel hchannel
        have hnext := hkept.receive source datagram
        have hnextSide := (channel.receive_keeps source datagram).1.trans hside
        unfold Client.handleSequenced
        cases hreceive : channel.receive source (.ofBytes datagram) with
        | mk receipt after =>
            rw [hreceive] at hnext hnextSide
            simp only
            split
            · refine ⟨fun other hother => ?_, hcounted.sizable, hcounted.stats.heardMore⟩
              cases hother
              exact ⟨hnext, hnextSide⟩
            · next message hmessage =>
                obtain ⟨hstats, hafter, hqueue⟩ := within_handleMessage
                  (c := { c with channel := some after }) hcounted.stats message clock
                refine ⟨fun other hother => ?_, by rw [hqueue]; exact hcounted.sizable, hstats⟩
                rcases hafter with hafter | hafter
                · rw [hafter] at hother
                  cases hother
                  exact ⟨hnext, hnextSide⟩
                · rw [hafter] at hother
                  cases hother

theorem Counted.handle_fits (hcounted : c.Counted heard issued bytes)
    (hfew : heard + 1 < halfWordLimit) (hbytes : bytes < wordLimit) (source : Address)
    (datagram : ByteArray) :
    c.HandleFits source datagram := by
  have hlimit := lt_wordLimit hfew
  obtain ⟨-, hechoed, hcorrupted, -, hpayload⟩ := hcounted.stats
  refine ⟨kind_fits datagram, fun channel hchannel => ?_, by omega, by omega, fun probe hp => ?_⟩
  · exact (hcounted.channel channel hchannel).1.receive_fits hfew source datagram
  · have hsize := payloadBytes_without hp
    omega

/-! ## Frames -/

/-- A client and its hub, after `arrived` datagrams at the socket. -/
structure Ready (arrived heard issued bytes : Nat) (x : Client × Hub) : Prop where
  client : x.1.Counted heard issued bytes
  hub : x.2.Fed .client arrived heard

/-- All datagrams and probes can be counted in 32 bits, and the bytes of the probes in 64. -/
structure Countable (arrived issued bytes : Nat) (h : Hub) : Prop where
  numbers : arrived + h.traffic + issued < halfWordLimit - 1
  bytes : bytes < wordLimit

variable {arrived : Nat} {h g : Hub} {now : Instant} {clock : UInt64}

theorem Countable.earlier (hcountable : Countable arrived issued bytes g)
    (hle : h.traffic ≤ g.traffic) :
    Countable arrived issued bytes h := by
  have hnumbers := hcountable.numbers
  exact ⟨by omega, hcountable.bytes⟩

theorem Countable.traffic_lt (hcountable : Countable arrived issued bytes h) :
    h.traffic + 1 < wordLimit := by
  have hnumbers := hcountable.numbers
  exact lt_wordLimit (by omega)

theorem Ready.emits (hready : Ready arrived heard issued bytes (c, h))
    (hemits : Hub.Emits .client h g) :
    Ready arrived heard issued bytes (c, g) :=
  ⟨hready.client, hready.hub.emits hemits⟩

/-- All that waits is handled, one datagram after the other. -/
theorem Ready.drain (hready : Ready arrived heard issued bytes (c, h)) (clock : UInt64) :
    ∃ heard', Ready arrived heard' issued bytes
        (c.listen h.settings.showDrops clock ((h.drain .client).1.filterMap Hub.Poll.found),
          (h.drain .client).2) ∧
      (h.drain .client).2.traffic = h.traffic ∧
      (Countable arrived issued bytes h → c.DrainFits clock h) := by
  induction hwaiting : h.waiting .client using Nat.strong_induction_on
    generalizing c h heard with
  | _ waiting ih =>
      have hhub : h.Fed .client arrived heard := hready.hub
      obtain ⟨hfed, htraffic⟩ := hhub.poll
      have hpollFits : Countable arrived issued bytes h → h.PollFits .client :=
        fun hcountable => hhub.poll_fits hcountable.traffic_lt
      cases hpoll : h.poll .client with
      | mk poll rest =>
          rw [hpoll] at hfed htraffic
          cases hfound : poll.found with
          | none =>
              rw [hfound] at hfed
              rw [Hub.drain_of_none hpoll hfound]
              have hnone : [poll].filterMap Hub.Poll.found = [] := by simp [hfound]
              rw [hnone]
              exact ⟨heard, ⟨hready.client, hfed⟩, htraffic,
                fun hcountable => .empty (hpollFits hcountable) (by rw [hpoll]; exact hfound)⟩
          | some found =>
              obtain ⟨source, datagram⟩ := found
              rw [hfound] at hfed
              have hless := h.waiting_poll .client (by rw [hpoll]; simp [hfound])
              rw [hpoll, hwaiting] at hless
              have hsettings : rest.settings = h.settings := by
                have hsame := h.settings_poll .client
                rw [hpoll] at hsame
                exact hsame
              have hhandled := hready.client.handle h.settings.showDrops source datagram clock
              obtain ⟨heard', hlast, hlastTraffic, hdrain⟩ := ih _ hless ⟨hhandled, hfed⟩ rfl
              rw [Hub.drain_of_some hpoll (by simp [hfound]), List.filterMap_cons_some hfound]
              rw [hsettings] at hlast
              refine ⟨heard', hlast, hlastTraffic.trans htraffic, fun hcountable => ?_⟩
              have hheard := hfed.heard_le
              have hnumbers := hcountable.numbers
              simp only [Option.toList_some, List.length_singleton] at hheard htraffic
              refine .next (hpollFits hcountable) hpoll hfound ?_
                (hdrain (hcountable.earlier (Nat.le_of_eq htraffic)))
              exact hready.client.handle_fits (by omega) hcountable.bytes source datagram

theorem Ready.receiveAll (hready : Ready arrived heard issued bytes (c, h)) (clock : UInt64) :
    ∃ heard', Ready arrived heard' issued bytes (c.receiveAll h clock) ∧
      (c.receiveAll h clock).2.traffic = h.traffic ∧
      (Countable arrived issued bytes h → c.DrainFits clock h) := by
  obtain ⟨heard', hlast, htraffic, hdrain⟩ := hready.drain clock
  obtain ⟨journal, hfold⟩ := foldl_handlePoll c (h.drain .client).2 clock (h.drain .client).1
  have hsettings : (h.drain .client).2.settings = h.settings := by
    rw [(h.drain_spec .client).2]
    rfl
  rw [← hsettings] at hlast
  have hreceive : c.receiveAll h clock = _ := hfold
  rw [hreceive]
  refine ⟨heard', ⟨hlast.client, hlast.hub.direct, fun reader => ?_, hlast.hub.heard⟩,
    htraffic, hdrain⟩
  cases reader with
  | client => exact hlast.hub.behind .client
  | server => exact hlast.hub.behind .server

/-- A text without a channel is sent to the server. -/
theorem Ready.sendText (hready : Ready arrived heard issued bytes (c, h)) (text : String)
    (target : Address) (now : Instant) :
    ∃ left, h.sendText .client text target now = .done left ∧
      Ready arrived heard issued bytes (c, left) ∧ h.traffic ≤ left.traffic ∧
      (Countable arrived issued bytes left →
        h.SendFits now .client (connectionless text.toUTF8) target) := by
  have hemits := h.emits_send .client (connectionless text.toUTF8) target now
  have hdone := Hub.fault_send hready.hub.direct .client (connectionless text.toUTF8) target now
  have hfits : (h.send .client (connectionless text.toUTF8) target now).reached.traffic <
      wordLimit → h.SendFits now .client (connectionless text.toUTF8) target :=
    fun hfew => Hub.send_fits hready.hub.direct hfew
  have hsent : h.sendText .client text target now =
      h.send .client (connectionless text.toUTF8) target now := rfl
  cases hsend : h.send .client (connectionless text.toUTF8) target now with
  | mk left fault =>
      rw [hsend] at hemits hdone hfits hsent
      cases hdone
      exact ⟨left, hsent, hready.emits hemits, hemits.traffic_le,
        fun hcountable => hfits (Nat.lt_of_succ_lt hcountable.traffic_lt)⟩

theorem Ready.sendConnect (hready : Ready arrived heard issued bytes (c, h)) (now : Instant) :
    ∃ left, c.sendConnect h now = .done ({ c with lastConnect := some now }, left) ∧
      Ready arrived heard issued bytes ({ c with lastConnect := some now }, left) ∧
      h.traffic ≤ left.traffic ∧ (Countable arrived issued bytes left → c.AskFits now h) := by
  obtain ⟨left, hsend, hleft, hgrown, hfits⟩ :=
    hready.sendText (connectRequest c.qport).render c.server now
  refine ⟨left, ?_, ⟨?_, hleft.hub⟩, hgrown, hfits⟩
  · rw [Client.sendConnect, hsend]
    rfl
  · exact ⟨hready.client.channel, hready.client.sizable, hready.client.stats⟩

theorem Ready.resendConnect (hready : Ready arrived heard issued bytes (c, h))
    (now : Instant) :
    ∃ asked left, c.resendConnect h now = .done (asked, left) ∧
      Ready arrived heard issued bytes (asked, left) ∧ h.traffic ≤ left.traffic ∧
      (Countable arrived issued bytes left → c.needsResend now = true →
        c.AskFits now (h.report [.debug "Resending connect request"])) := by
  unfold Client.resendConnect
  split
  · obtain ⟨left, hsend, hleft, hgrown, hfits⟩ :=
      (hready.emits (.report [.debug "Resending connect request"] .nothing)).sendConnect now
    exact ⟨_, left, hsend, hleft, hgrown, fun hcountable _ => hfits hcountable⟩
  · next hno =>
      exact ⟨c, h, rfl, hready, Nat.le_refl _, fun _ hneeds => absurd hneeds hno⟩

/-- A share of messages is sent over the channel. -/
theorem Ready.ship (hready : Ready arrived heard issued bytes (c, h)) {channel : Channel}
    (hchannel : c.channel = some channel) {queue : List ByteArray}
    (hqueue : ∀ message ∈ queue, Sizable message) (budget : Nat) (now : Instant) :
    ∃ sent : Shipment, channel.ship h queue budget now = .done sent ∧
      sent.channel.Counted heard ∧ sent.channel.side = .client ∧ sent.queue <:+ queue ∧
      Hub.Emits .client h sent.hub ∧
      (Countable arrived issued bytes sent.hub → channel.ShipFits now h queue budget) := by
  obtain ⟨hcounted, hside⟩ := hready.client.channel channel hchannel
  obtain ⟨hdone, hkept, hemits, hfits⟩ := hcounted.ship hready.hub.direct hqueue budget now
  obtain ⟨outgoing, hframe⟩ := channel.frame_ship h queue budget now
  have hrest := channel.ship_suffix h queue budget now
  cases hship : channel.ship h queue budget now with
  | mk sent fault =>
      rw [hship] at hdone hkept hemits hfits hframe hrest
      rw [hside] at hemits
      cases hdone
      refine ⟨sent, rfl, hkept, ?_, hrest, hemits,
        fun hcountable => hfits (Nat.lt_of_succ_lt hcountable.traffic_lt)⟩
      simp only at hframe
      rw [hframe]
      exact hside

theorem Ready.pump (hready : Ready arrived heard issued bytes (c, h)) (now : Instant) :
    ∃ after left, c.pump h now = .done (after, left) ∧
      Ready arrived heard issued bytes (after, left) ∧ h.traffic ≤ left.traffic ∧
      (Countable arrived issued bytes left → ∀ channel, c.channel = some channel →
        channel.ShipFits now h c.queue c.fragmentsPerTick) := by
  unfold Client.pump
  cases hchannel : c.channel with
  | none => exact ⟨c, h, rfl, hready, Nat.le_refl _, fun _ channel hother => by cases hother⟩
  | some channel =>
      obtain ⟨sent, hship, hcounted, hside, hsuffix, hemits, hfits⟩ :=
        hready.ship hchannel hready.client.sizable c.fragmentsPerTick now
      refine ⟨{ c with channel := some sent.channel, queue := sent.queue }, sent.hub, ?_,
        ⟨⟨fun other hother => ?_, ?_, hready.client.stats⟩, hready.hub.emits hemits⟩,
        hemits.traffic_le, fun hcountable other hother => ?_⟩
      · simp only [hship]
        rfl
      · cases hother
        exact ⟨hcounted, hside⟩
      · exact fun message hmessage => hready.client.sizable message (hsuffix.subset hmessage)
      · cases hother
        exact hfits hcountable

/-- A frame goes through, and it asks for nothing that there is not. -/
theorem Ready.tick (hready : Ready arrived heard issued bytes (c, h)) (now : Instant)
    (clock : UInt64) :
    ∃ heard' after left, c.tick h now clock = .done (after, left) ∧
      Ready arrived heard' issued bytes (after, left) ∧ h.traffic ≤ left.traffic ∧
      (Countable arrived issued bytes left → c.TickFits now h clock) := by
  obtain ⟨heard', hreceived, hsame, hdrain⟩ := hready.receiveAll clock
  cases hreceive : c.receiveAll h clock with
  | mk heardAll left =>
      rw [hreceive] at hreceived hsame
      obtain ⟨asked, sent, hask, hasked, hgrown, hasks⟩ := hreceived.resendConnect now
      obtain ⟨after, last, hpump, hpumped, hmore, hships⟩ := hasked.pump now
      have hflush := last.emits_flush .client now
      have htick : c.tick h now clock = .done (after, (last.flush now).2) := by
        simp only [Client.tick, hreceive, hask, Attempt.done_andThen, hpump]
      simp only at hsame
      have hfirst : h.traffic ≤ sent.traffic := by omega
      refine ⟨heard', after, (last.flush now).2, htick, hpumped.emits hflush,
        (hfirst.trans hmore).trans hflush.traffic_le, fun hcountable => ?_⟩
      have hlast := hcountable.earlier hflush.traffic_le
      have hsent := hlast.earlier hmore
      refine ⟨hdrain (hsent.earlier hfirst), ?_, ?_, by rw [htick]; rfl⟩
      · intro other rest hother hneeds
        rw [hreceive] at hother
        cases hother
        exact hasks hsent hneeds
      · intro other rest hother asked' sent' hask' channel hchannel
        rw [hreceive] at hother
        cases hother
        rw [hask] at hask'
        cases hask'
        exact hships hlast channel hchannel

/-! ## Leaving -/

theorem sizable_farewell : Sizable farewell.encode := by
  unfold Sizable
  rw [size_encode_farewell]
  decide

theorem Ready.sendFarewell (hready : Ready arrived heard issued bytes (c, h))
    (now : Instant) :
    ∃ after left, c.sendFarewell h now = .done (after, left) ∧
      Ready arrived heard issued bytes (after, left) ∧ h.traffic ≤ left.traffic ∧
      after.phase = c.phase ∧ after.server = c.server ∧
      (Countable arrived issued bytes left → ∀ channel, c.channel = some channel →
        channel.isBusy = false →
          channel.ShipFits now h [farewell.encode]
            (Channel.datagramCount farewell.encode.size)) := by
  unfold Client.sendFarewell
  cases hchannel : c.channel with
  | none =>
      exact ⟨c, h, rfl, hready, Nat.le_refl _, rfl, rfl, fun _ channel hother => by cases hother⟩
  | some channel =>
      by_cases hbusy : channel.isBusy = true
      · simp only [hbusy, if_true]
        refine ⟨c, h, rfl, hready, Nat.le_refl _, rfl, rfl, fun _ other hother hidle => ?_⟩
        cases hother
        rw [hbusy] at hidle
        cases hidle
      · have hqueue : ∀ message ∈ [farewell.encode], Sizable message := by
          intro message hmessage
          rw [List.mem_singleton.mp hmessage]
          exact sizable_farewell
        obtain ⟨sent, hship, hcounted, hside, -, hemits, hfits⟩ :=
          hready.ship hchannel hqueue (Channel.datagramCount farewell.encode.size) now
        refine ⟨{ c with channel := some sent.channel }, sent.hub, ?_,
          ⟨⟨fun other hother => ?_, hready.client.sizable, hready.client.stats⟩,
            hready.hub.emits hemits⟩, hemits.traffic_le, rfl, rfl,
          fun hcountable other hother _ => ?_⟩
        · simp only [Channel.shipAll, Channel.shipMessage, hbusy, hship, Bool.false_eq_true,
            if_false]
          rfl
        · cases hother
          exact ⟨hcounted, hside⟩
        · cases hother
          exact hfits hcountable

theorem Ready.disconnect (hready : Ready arrived heard issued bytes (c, h)) (now : Instant) :
    ∃ after left, c.disconnect h now = .done (after, left) ∧
      Ready arrived heard issued bytes (after, left) ∧ h.traffic ≤ left.traffic ∧
      (Countable arrived issued bytes left → c.LeaveFits now h) := by
  obtain ⟨after, left, hsend, hleft, hgrown, hphase, hserver, hfarewell⟩ :=
    hready.sendFarewell now
  have hnotice : ∃ last, after.sendLeave left now = .done last ∧
      Ready arrived heard issued bytes (after, last) ∧ left.traffic ≤ last.traffic ∧
      (Countable arrived issued bytes last → after.phase ≠ .disconnected →
        left.SendFits now .client (connectionless disconnectNotice.render.toUTF8)
          after.server) := by
    unfold sendLeave
    split
    · next hgone =>
        exact ⟨left, rfl, hleft, Nat.le_refl _, fun _ hthere => absurd hgone hthere⟩
    · obtain ⟨last, hlast, hready', hmore, hfits⟩ :=
        hleft.sendText disconnectNotice.render after.server now
      exact ⟨last, hlast, hready', hmore, fun hcountable _ => hfits hcountable⟩
  obtain ⟨last, hleave, hlast, hmore, hfits⟩ := hnotice
  have hdisconnect : c.disconnect h now = .done (after.reset, last) := by
    simp only [Client.disconnect, hsend, Attempt.done_andThen, hleave, Attempt.map_done]
  have hstats := hlast.client.stats
  refine ⟨after.reset, last, hdisconnect, ⟨⟨?_, ?_, ?_⟩, hlast.hub⟩, hgrown.trans hmore,
    fun hcountable => ?_⟩
  · intro channel hchannel
    cases hchannel
  · intro message hmessage
    cases hmessage
  · have hpayload := hstats.payload
    refine ⟨hstats.sent, hstats.echoed, hstats.corrupted, hstats.lost, ?_⟩
    exact (Nat.add_le_add_left (Nat.zero_le _) _).trans hpayload
  · refine ⟨hfarewell (hcountable.earlier hmore), ?_, ?_, by rw [hdisconnect]; rfl⟩
    · intro other rest hother
      rw [hsend] at hother
      cases hother
      exact hfits hcountable
    · have hlost := hready.client.stats.lost
      have hnumbers := hcountable.numbers
      simp only at hlost
      exact lt_wordLimit (by omega)

/-! ## Probes -/

theorem Counted.sendProbe (hcounted : c.Counted heard issued bytes) {size : Nat}
    {id? : Option UInt32} {after : Client} (hsend : c.sendProbe size clock = .ok (id?, after)) :
    after.Counted heard (issued + 1) (bytes + size) := by
  obtain ⟨hsent, hechoed, hcorrupted, hlost, hpayload⟩ := hcounted.stats
  unfold Client.sendProbe at hsend
  split at hsend
  · cases hsend
    exact ⟨hcounted.channel, hcounted.sizable, Nat.le_succ_of_le hsent, hechoed, hcorrupted,
      Nat.le_succ_of_le hlost, Nat.le_add_right_of_le hpayload⟩
  · split at hsend
    · cases hsend
    · next hsmall =>
        cases hsend
        have hfewer : (c.inFlight.filter (·.id != c.nextProbe)).length ≤ c.inFlight.length :=
          List.length_filter_le _ _
        have hless := payloadBytes_filter_le (·.id != c.nextProbe) c.inFlight
        refine ⟨hcounted.channel, fun message hmessage => ?_, Nat.succ_le_succ hsent, hechoed,
          hcorrupted, ?_, ?_⟩
        · rcases List.mem_append.mp hmessage with hold | hnew
          · exact hcounted.sizable message hold
          · have hlimit : maxPayloadSize = 2 ^ 63 - 1 := rfl
            rw [List.mem_singleton.mp hnew, Sizable, Message.size_encode_probe,
              size_probePayload]
            unfold maxHeaderSize wordLimit
            omega
        · simp only [await, ProbeStats.countSent, List.length_append, List.length_singleton]
          omega
        · have hone : payloadBytes [⟨c.nextProbe, size⟩] = size := by simp [payloadBytes]
          simp only [await, ProbeStats.countSent, payloadBytes_append, hone]
          omega

theorem refused_sendProbe {size : Nat} {fault : Fault}
    (hrefused : c.sendProbe size clock = .error fault) :
    fault = .payloadTooLong ∧ maxPayloadSize < size := by
  unfold Client.sendProbe at hrefused
  split at hrefused
  · cases hrefused
  · split at hrefused
    · next hlarge =>
        cases hrefused
        exact ⟨rfl, hlarge⟩
    · cases hrefused

/-! ## Runs -/

/-- How many datagrams come to the socket. -/
def Deed.arrivals : Deed → Nat
  | .meet incident => incident.arrivals
  | _ => 0

/-- How many probes are to be issued. -/
def Deed.probes : Deed → Nat
  | .sendProbe _ _ => 1
  | _ => 0

/-- How many payload bytes these probes are to have. -/
def Deed.payload : Deed → Nat
  | .sendProbe size _ => size
  | _ => 0

theorem Ready.perform {x : Client × Hub} (hready : Ready arrived heard issued bytes x)
    (deed : Deed) :
    (∃ heard' after, Client.perform x deed = .done after ∧
        Ready (arrived + deed.arrivals) heard' (issued + deed.probes) (bytes + deed.payload)
          after ∧
        x.2.traffic ≤ after.2.traffic ∧
        (Countable (arrived + deed.arrivals) (issued + deed.probes) (bytes + deed.payload)
          after.2 → DeedFits x deed)) ∨
      ∃ size clock, deed = .sendProbe size clock ∧ maxPayloadSize < size ∧
        Client.perform x deed = .stopped x .payloadTooLong ∧
        (Countable (arrived + deed.arrivals) (issued + deed.probes) (bytes + deed.payload)
          x.2 → DeedFits x deed) := by
  obtain ⟨c, h⟩ := x
  cases deed with
  | connect now =>
      have hconnecting : Ready arrived heard issued bytes
          ({ c with phase := .connecting }, h.report [.info s!"Connecting to {c.server}..."]) :=
        ⟨⟨hready.client.channel, hready.client.sizable, hready.client.stats⟩,
          hready.hub.emits (.report _ .nothing)⟩
      obtain ⟨left, hsend, hleft, hgrown, hfits⟩ := hconnecting.sendConnect now
      exact Or.inl ⟨heard, _, hsend, hleft, hgrown, hfits⟩
  | requestInfo now =>
      obtain ⟨left, hsend, hleft, hgrown, hfits⟩ :=
        hready.sendText infoRequest.render c.server now
      have hperform : Client.perform (c, h) (.requestInfo now) = .done (c, left) := by
        simp only [Client.perform, requestInfo, hsend, Attempt.map_done]
      exact Or.inl ⟨heard, _, hperform, hleft, hgrown, hfits⟩
  | sendProbe size clock =>
      have hfits : Countable (arrived + 0) (issued + 1) (bytes + size) h →
          c.ProbeFits size clock := by
        intro hcountable
        refine ⟨?_, fun fault => refused_sendProbe⟩
        have hsent : c.stats.sent ≤ issued := hready.client.stats.sent
        have hnumbers := hcountable.numbers
        exact lt_wordLimit (by omega)
      cases hsend : c.sendProbe size clock with
      | ok sent =>
          obtain ⟨id?, after⟩ := sent
          have hperform : Client.perform (c, h) (.sendProbe size clock) = .done (after, h) := by
            simp only [Client.perform, hsend]
          exact Or.inl ⟨heard, _, hperform, ⟨hready.client.sendProbe hsend, hready.hub⟩,
            Nat.le_refl _, hfits⟩
      | error fault =>
          obtain ⟨rfl, hlarge⟩ := refused_sendProbe hsend
          refine Or.inr ⟨size, clock, rfl, hlarge, ?_, hfits⟩
          simp only [Client.perform, hsend]
  | tick now clock =>
      obtain ⟨heard', after, left, htick, hafter, hgrown, hfits⟩ := hready.tick now clock
      exact Or.inl ⟨heard', _, htick, hafter, hgrown, hfits⟩
  | disconnect now =>
      obtain ⟨after, left, hleave, hafter, hgrown, hfits⟩ := hready.disconnect now
      exact Or.inl ⟨heard, _, hleave, hafter, hgrown, hfits⟩
  | meet incident =>
      obtain ⟨hfed, hgrown⟩ := hready.hub.meet incident
      exact Or.inl ⟨heard, _, rfl, ⟨hready.client, hfed⟩, hgrown, fun _ => trivial⟩

/-- A run goes through up to a probe that no memory holds.  As long as its datagrams and probes
can be counted, it asks for nothing that there is not. -/
theorem Ready.performAll {x : Client × Hub} (hready : Ready arrived heard issued bytes x)
    (deeds : List Deed) :
    x.2.traffic ≤ (Client.performAll x deeds).reached.2.traffic ∧
      (∀ fault, (Client.performAll x deeds).fault = some fault →
        fault = .payloadTooLong ∧
          ∃ size clock, .sendProbe size clock ∈ deeds ∧ maxPayloadSize < size) ∧
      (Countable (arrived + (deeds.map Deed.arrivals).sum) (issued + (deeds.map Deed.probes).sum)
          (bytes + (deeds.map Deed.payload).sum) (Client.performAll x deeds).reached.2 →
        RunFits x deeds) := by
  induction deeds generalizing x arrived heard issued bytes with
  | nil => exact ⟨Nat.le_refl _, fun fault hfault => (by cases hfault), fun _ => trivial⟩
  | cons deed deeds ih =>
      -- what is counted up to here is a part of what is counted in all
      have hpart : ∀ {last g : Hub}, g.traffic ≤ last.traffic →
          Countable (arrived + ((deed :: deeds).map Deed.arrivals).sum)
            (issued + ((deed :: deeds).map Deed.probes).sum)
            (bytes + ((deed :: deeds).map Deed.payload).sum) last →
          Countable (arrived + deed.arrivals) (issued + deed.probes)
            (bytes + deed.payload) g := by
        intro last g hle hcountable
        obtain ⟨hnumbers, hbytes⟩ := hcountable
        simp only [List.map_cons, List.sum_cons] at hnumbers hbytes
        exact ⟨by omega, by omega⟩
      rcases hready.perform deed with ⟨heard', next, hperform, hnext, hgrown, hdeed⟩ |
        ⟨size, clock, rfl, hlarge, hperform, hdeed⟩
      · obtain ⟨hmore, hfaults, hfits⟩ := ih hnext
        have hall : Client.performAll x (deed :: deeds) = Client.performAll next deeds := by
          rw [Client.performAll, Attempt.forEach, hperform, Attempt.done_andThen]
          rfl
        rw [hall]
        refine ⟨hgrown.trans hmore, fun fault hfault => ?_, fun hcountable => ⟨?_, ?_⟩⟩
        · obtain ⟨hcause, size, clock, hmem, hlarge⟩ := hfaults fault hfault
          exact ⟨hcause, size, clock, List.mem_cons_of_mem _ hmem, hlarge⟩
        · exact hdeed (hpart hmore hcountable)
        · intro after hafter
          rw [hperform] at hafter
          cases hafter
          refine hfits ?_
          simpa only [List.map_cons, List.sum_cons, Nat.add_assoc] using hcountable
      · have hall : Client.performAll x (.sendProbe size clock :: deeds) =
            .stopped x .payloadTooLong := by
          rw [Client.performAll, Attempt.forEach, hperform, Attempt.stopped_andThen]
        rw [hall]
        refine ⟨Nat.le_refl _, fun fault hfault => ?_, fun hcountable => ⟨?_, ?_⟩⟩
        · cases hfault
          exact ⟨rfl, size, clock, List.mem_cons_self, hlarge⟩
        · exact hdeed (hpart (Nat.le_refl _) hcountable)
        · intro after hafter
          rw [hperform] at hafter
          cases hafter

end Client
end DatagramLink

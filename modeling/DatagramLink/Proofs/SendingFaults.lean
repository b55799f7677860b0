import DatagramLink.Proofs.StrangerRuns

/-!
# What may stop a client

A hub stops at a datagram when its delay and the random part of the delay add up to more
than 64 bits count, and at nothing else.  A client that keeps to its server and its qport
has a channel that never stops, so no call of the client stops but for such a delay.
-/

namespace DatagramLink

/-- A fault at which a hub with these settings may stop when a side sends. -/
structure Settings.Overruns (s : Settings) (side : Side) (fault : Fault) : Prop where
  fault : fault = .delayTooLong
  jitter : 0 < s.jitter
  delay : Text.maxUnsigned64 < s.delay side + s.jitter

namespace Attempt

/-- What is reached has a property, and only a fault of a kind may have stopped the work. -/
structure Keeps {σ : Type} (a : Attempt σ) (P : σ → Prop) (F : Fault → Prop) : Prop where
  reached : P a.reached
  stopped : ∀ fault, a.fault = some fault → F fault

section
variable {σ τ : Type} {a : Attempt σ} {P : σ → Prop} {Q : τ → Prop} {F : Fault → Prop}

theorem keeps_done {state : σ} (hreached : P state) : (done state).Keeps P F where
  reached := hreached
  stopped := by
    intro fault hfault
    cases hfault

theorem Keeps.map (hkeeps : a.Keeps P F) {whole : σ → τ}
    (hwhole : ∀ state, P state → Q (whole state)) :
    (a.map whole).Keeps Q F where
  reached := hwhole a.reached hkeeps.reached
  stopped := hkeeps.stopped

theorem Keeps.andThen (hkeeps : a.Keeps P F) {next : σ → Attempt σ}
    (hnext : ∀ state, P state → (next state).Keeps P F) :
    (a.andThen next).Keeps P F := by
  rcases a with ⟨state, _ | fault⟩
  · exact hnext state hkeeps.reached
  · exact hkeeps

end

end Attempt

/-! ## Hubs -/

namespace Hub

theorem overruns_of_rollDelay {h : Hub} {side : Side} (hnone : (h.rollDelay side).1 = none) :
    h.settings.Overruns side .delayTooLong := by
  unfold rollDelay at hnone
  split at hnone
  · next hjitter =>
      rw [Option.filter_eq_none_iff] at hnone
      have hlong := hnone _ rfl
      have hmod : h.dice.next.1.toNat % (h.settings.jitter + 1) ≤ h.settings.jitter :=
        Nat.le_of_lt_succ (Nat.mod_lt _ (Nat.succ_pos _))
      rw [decide_eq_true_eq, Nat.not_le] at hlong
      exact ⟨rfl, hjitter, by omega⟩
  · cases hnone

theorem overruns_of_sendRemote {h : Hub} {side : Side} {d : Datagram} {now : Instant}
    {fault : Fault} (hstopped : (h.sendRemote side d now).fault = some fault) :
    h.settings.Overruns side fault := by
  have hsettings := (h.emits_rollLoss side).sameInbound.settings
  unfold sendRemote at hstopped
  split at hstopped
  · cases hstopped
  · next kept heq =>
      rw [heq] at hsettings
      split at hstopped
      · unfold hold at hstopped
        split at hstopped
        · cases hstopped
        · next rolled hroll =>
            cases hstopped
            rw [← hsettings]
            exact overruns_of_rollDelay (by rw [hroll])
      · cases hstopped

theorem keeps_send (h : Hub) (side : Side) (bytes : ByteArray) (target : Address)
    (now : Instant) :
    (h.send side bytes target now).Keeps (·.settings = h.settings)
      (h.settings.Overruns side) where
  reached := (h.emits_send side bytes target now).sameInbound.settings
  stopped := by
    intro fault hstopped
    have hreported := h.emits_reportIf side h.settings.showPackets
      (.info s!"{side} send {bytes.size} bytes to {target}")
    unfold send at hstopped
    cases target with
    | loopback => cases hstopped
    | remote endpoint =>
        rw [← hreported.sameInbound.settings]
        exact overruns_of_sendRemote hstopped

theorem keeps_dispatchAll {side : Side} {sent : List Dispatch}
    (hside : ∀ d ∈ sent, d.side = side) (h : Hub) (now : Instant) :
    (h.dispatchAll sent now).Keeps (·.2.settings = h.settings) (h.settings.Overruns side) := by
  induction sent generalizing h with
  | nil => exact Attempt.keeps_done rfl
  | cons d sent ih =>
      have hfirst : (h.dispatch d now).Keeps (·.settings = h.settings)
          (h.settings.Overruns side) := by
        have hsend := (h.report [d.note]).keeps_send d.side d.bytes d.target now
        rw [hside d List.mem_cons_self] at hsend
        rw [dispatch, hside d List.mem_cons_self]
        exact hsend
      unfold dispatchAll
      split
      · next between fault heq =>
          rw [heq] at hfirst
          exact ⟨hfirst.reached, hfirst.stopped⟩
      · next between heq =>
          rw [heq] at hfirst
          have hbetween : between.settings = h.settings := hfirst.reached
          have hrest := ih (fun e he => hside e (List.mem_cons_of_mem _ he)) between
          rw [hbetween] at hrest
          exact hrest.map fun _ hsame => hsame

end Hub

/-! ## Channels -/

theorem Channel.ClientEnd.keeps_ship {c : Channel} {server : Address} {qport : UInt16}
    (hend : c.ClientEnd server qport) (h : Hub) (queue : List ByteArray) (budget : Nat)
    (now : Instant) :
    (c.ship h queue budget now).Keeps
      (fun s => s.channel.ClientEnd server qport ∧ s.hub.settings = h.settings)
      (h.settings.Overruns .client) := by
  have hchannel := hend.ship h queue budget now
  obtain ⟨pumped, hpump, hsending, -, -⟩ := Channel.pump_spec hend.aligned queue budget
  have hsides : ∀ d ∈ pumped.dispatches, d.side = .client :=
    fun d hd => (hsending.addressed d hd).1.trans hend.side
  have hsent := Hub.keeps_dispatchAll hsides h now
  unfold Channel.ship at hchannel ⊢
  rw [hpump] at hchannel ⊢
  simp only at hchannel ⊢
  split
  · next count reached heq =>
      rw [heq] at hsent hchannel
      exact Attempt.keeps_done ⟨hchannel, hsent.reached⟩
  · next count reached fault heq =>
      rw [heq] at hsent hchannel
      exact ⟨⟨hchannel, hsent.reached⟩, hsent.stopped⟩

/-! ## Clients -/

namespace Client

/-- A client that keeps to its server and its qport, on a hub with these settings. -/
structure Engaged (server : Address) (qport : UInt16) (s : Settings) (x : Client × Hub) :
    Prop where
  steady : Steady server qport x.1
  settings : x.2.settings = s

variable {server : Address} {qport : UInt16} {s : Settings} {c : Client} {h : Hub}

theorem Engaged.keeps_sendConnect (hengaged : Engaged server qport s (c, h)) (now : Instant) :
    (c.sendConnect h now).Keeps (Engaged server qport s) (s.Overruns .client) := by
  have hclient := hengaged.steady.sendConnect h now
  have hsettings : h.settings = s := hengaged.settings
  have hsent : (h.sendText .client (connectRequest c.qport).render c.server now).Keeps
      (·.settings = h.settings) (h.settings.Overruns .client) := h.keeps_send .client _ _ now
  rw [hsettings] at hsent
  unfold sendConnect at hclient ⊢
  split
  · next heq =>
      rw [heq] at hsent hclient
      exact Attempt.keeps_done ⟨hclient, hsent.reached⟩
  · next heq =>
      rw [heq] at hsent hclient
      exact ⟨⟨hclient, hsent.reached⟩, hsent.stopped⟩

theorem Engaged.keeps_connect (hengaged : Engaged server qport s (c, h)) (now : Instant) :
    (c.connect h now).Keeps (Engaged server qport s) (s.Overruns .client) := by
  have hsteady : Steady server qport c := hengaged.steady
  have hstarted : Engaged server qport s
      ({ c with phase := .connecting }, h.report [.info s!"Connecting to {c.server}..."]) :=
    ⟨⟨hsteady.server, hsteady.qport, hsteady.channel⟩, hengaged.settings⟩
  exact hstarted.keeps_sendConnect now

theorem Engaged.receiveAll (hengaged : Engaged server qport s (c, h)) (clock : UInt64) :
    Engaged server qport s (c.receiveAll h clock) where
  steady := hengaged.steady.receiveAll h clock
  settings := by
    obtain ⟨journal, hfold⟩ := foldl_handlePoll c (h.drain .client).2 clock (h.drain .client).1
    have hreceive : c.receiveAll h clock = _ := hfold
    rw [hreceive, (h.drain_spec .client).2]
    exact hengaged.settings

theorem Engaged.keeps_resendConnect (hengaged : Engaged server qport s (c, h))
    (now : Instant) :
    (c.resendConnect h now).Keeps (Engaged server qport s) (s.Overruns .client) := by
  unfold resendConnect
  split
  · have hreported : Engaged server qport s (c, h.report [.debug "Resending connect request"]) :=
      ⟨hengaged.steady, hengaged.settings⟩
    exact hreported.keeps_sendConnect now
  · exact Attempt.keeps_done hengaged

theorem Engaged.keeps_pump (hengaged : Engaged server qport s (c, h)) (now : Instant) :
    (c.pump h now).Keeps (Engaged server qport s) (s.Overruns .client) := by
  have hsteady : Steady server qport c := hengaged.steady
  have hsettings : h.settings = s := hengaged.settings
  unfold pump
  cases hchannel : c.channel with
  | none => exact Attempt.keeps_done hengaged
  | some channel =>
      have hship := (hsteady.channel channel hchannel).keeps_ship h c.queue
        c.fragmentsPerTick now
      rw [hsettings] at hship
      refine hship.map ?_
      rintro shipment ⟨hend, hsame⟩
      have hnext := hsteady.with_channel hend
      exact ⟨⟨hnext.server, hnext.qport, hnext.channel⟩, hsame⟩

/-- Only a delay that is too long stops a frame. -/
theorem Engaged.keeps_tick (hengaged : Engaged server qport s (c, h)) (now : Instant)
    (clock : UInt64) :
    (c.tick h now clock).Keeps (Engaged server qport s) (s.Overruns .client) := by
  have hreceived := hengaged.receiveAll clock
  unfold tick
  cases hreceive : c.receiveAll h clock with
  | mk c₁ h₁ =>
      rw [hreceive] at hreceived
      have hasked := hreceived.keeps_resendConnect now
      have hpumped := hasked.andThen fun x hx => hx.keeps_pump now
      refine hpumped.andThen ?_
      rintro ⟨c₂, h₂⟩ hx
      have hflushed := (h₂.emits_flush .client now).sameInbound.settings
      exact Attempt.keeps_done ⟨hx.steady, hflushed.trans hx.settings⟩

theorem Engaged.keeps_sendFarewell (hengaged : Engaged server qport s (c, h))
    (now : Instant) :
    (c.sendFarewell h now).Keeps (Engaged server qport s) (s.Overruns .client) := by
  have hsteady : Steady server qport c := hengaged.steady
  have hsettings : h.settings = s := hengaged.settings
  unfold sendFarewell
  cases hchannel : c.channel with
  | none => exact Attempt.keeps_done hengaged
  | some channel =>
      simp only
      split
      · exact Attempt.keeps_done hengaged
      · next hidle =>
          have hship := (hsteady.channel channel hchannel).keeps_ship h [farewell.encode]
            (Channel.datagramCount farewell.encode.size) now
          rw [hsettings] at hship
          rw [Channel.shipAll, Channel.shipMessage, if_neg hidle]
          exact hship.map fun shipment hshipped =>
            ⟨hsteady.with_channel hshipped.1, hshipped.2⟩

theorem Engaged.keeps_sendLeave (hengaged : Engaged server qport s (c, h)) (now : Instant) :
    (c.sendLeave h now).Keeps (·.settings = s) (s.Overruns .client) := by
  have hsettings : h.settings = s := hengaged.settings
  unfold sendLeave
  split
  · exact Attempt.keeps_done hsettings
  · have hsent : (h.sendText .client disconnectNotice.render c.server now).Keeps
        (·.settings = h.settings) (h.settings.Overruns .client) := h.keeps_send .client _ _ now
    rw [hsettings] at hsent
    exact hsent

/-- Only a delay that is too long keeps a client from leaving. -/
theorem Engaged.keeps_disconnect (hengaged : Engaged server qport s (c, h)) (now : Instant) :
    (c.disconnect h now).Keeps (Engaged server qport s) (s.Overruns .client) := by
  have hfarewell := hengaged.keeps_sendFarewell now
  have htold := hfarewell.andThen fun x hx =>
    (hx.keeps_sendLeave now).map fun left hleft => Engaged.mk (x := (x.1, left)) hx.steady hleft
  refine htold.andThen ?_
  rintro ⟨left, rest⟩ hx
  have hbare := Steady.without_channel hx.steady
  exact Attempt.keeps_done ⟨⟨hbare.server, hbare.qport, hbare.channel⟩, hx.settings⟩

end Client
end DatagramLink

import DatagramLink.Proofs.ClientCounts
import DatagramLink.Proofs.LoopbackRefinement

/-!
# Runs within the limits of a machine

A server or a client is started on a hub of its own, without simulated loss and delay, and
anything may happen to that hub.  Until the number of datagrams and probes does not fit into 32
bits, neither asks for anything that a machine does not have, and neither stops, but for a probe
whose payload no memory holds.
-/

namespace DatagramLink

theorem Settings.direct_of_zero {s : Settings} (hloss : s.lossPercent = 0)
    (hjitter : s.jitter = 0) (hdelays : ∀ side, s.delay side = 0) :
    s.Direct where
  lossless := by
    rw [simulatesLoss, hloss]
    decide
  undelayed := by
    intro side
    rw [simulatesLatency, hdelays side, hjitter]
    decide

theorem Hub.fed_unused {h : Hub} (hdirect : h.settings.Direct) (hquiet : h.socket.inbound = [])
    (side : Side) :
    h.unused.Fed side 0 0 where
  direct := hdirect
  behind := by
    intro reader
    cases reader <;> exact Nat.le_refl _
  heard := by
    have hnone : h.unused.socket.inbound = [] := hquiet
    rw [hnone]
    exact Nat.zero_le _

/-- A server as it is started. -/
def Server.started (hostname : String) (capacity count timeout : Nat) : Server :=
  ((Server.new hostname capacity).withFragmentsPerTick count).withClientTimeout timeout

/-- A client as it is started. -/
def Client.started (server : Address) (qport : UInt16) (count : Nat) : Client :=
  (Client.new server qport).withFragmentsPerTick count

/-- Servers and clients stay within a machine's limits, whatever they are given and however
their calls are mixed: no message is started too early, no header is refused, all parts lie
within their strings, nothing is taken from a count that is not in it, and every count fits.  A
server never stops, and a client only at a probe that is too long for any memory. -/
theorem Hub.runs_fit (h : Hub) (hdirect : h.settings.Direct) (hquiet : h.socket.inbound = []) :
    (∀ (hostname : String) (capacity count timeout : Nat) (deeds : List Server.Deed),
      (∀ source bytes, .meet (.arrive source bytes) ∈ deeds → bytes.size ≤ maxPayloadSize) →
      (deeds.map Server.Deed.arrivals).sum +
          (Server.performAll (.started hostname capacity count timeout, h.unused)
            deeds).reached.2.traffic < 2 ^ 32 - 1 →
      Server.RunFits (.started hostname capacity count timeout, h.unused) deeds ∧
        (Server.performAll (.started hostname capacity count timeout, h.unused)
          deeds).fault = none) ∧
    ∀ (server : Address) (qport : UInt16) (count : Nat) (deeds : List Client.Deed),
      (deeds.map Client.Deed.arrivals).sum + (deeds.map Client.Deed.probes).sum +
          (Client.performAll (.started server qport count, h.unused)
            deeds).reached.2.traffic < 2 ^ 32 - 1 →
      (deeds.map Client.Deed.payload).sum < 2 ^ 64 →
      Client.RunFits (.started server qport count, h.unused) deeds ∧
        ∀ fault, (Client.performAll (.started server qport count, h.unused)
            deeds).fault = some fault →
          fault = .payloadTooLong ∧
            ∃ size clock, .sendProbe size clock ∈ deeds ∧ maxPayloadSize < size := by
  constructor
  · intro hostname capacity count timeout deeds hshort hfew
    have hcounted := ((Server.counted_new hostname capacity).withFragmentsPerTick
      count).withClientTimeout timeout
    have hready : Server.Ready 0 [] (.started hostname capacity count timeout, h.unused) := by
      refine ⟨hcounted, fed_unused hdirect hquiet .server, fun bytes hbytes => ?_⟩
      cases hbytes
    obtain ⟨after, hperform, -, hfits⟩ := hready.performAll hshort
    rw [hperform] at hfew ⊢
    refine ⟨hfits ?_, rfl⟩
    unfold halfWordLimit
    simp only [Attempt.done] at hfew
    omega
  · intro server qport count deeds hfew hbytes
    have hcounted := (Client.counted_new server qport).withFragmentsPerTick count
    have hready : Client.Ready 0 0 0 0 (.started server qport count, h.unused) :=
      ⟨hcounted, fed_unused hdirect hquiet .client⟩
    obtain ⟨-, hfaults, hfits⟩ := hready.performAll deeds
    refine ⟨hfits ⟨?_, ?_⟩, hfaults⟩
    · unfold halfWordLimit
      omega
    · rw [Nat.zero_add]
      exact hbytes

/-! ## One connection -/

/-- A client connects to a server of its own process and sends a probe. -/
def Server.visitDeeds : List Deed :=
  [.meet (.arrive .loopback (connectRequest 7).toDatagram), .tick 0 fun _ => 0,
    .meet (.arrive .loopback
      (Packet.whole (some 7) 1 (Message.encode (.probe 1 5 "ping".toUTF8))).bytes),
    .tick 0 fun _ => 0]

/-- A client of a server of its own process sends a probe, and then it leaves. -/
def Client.visitDeeds (size : Nat) : List Deed :=
  [.connect 0, .meet (.arrive .loopback (connectResponse 1).toDatagram), .tick 0 0,
    .sendProbe size 0, .tick 0 0, .disconnect 0]

theorem Hub.runs_fit_of_visit :
    let h := Hub.loopbackOnly { qport := 7 }
    h.settings.Direct ∧ h.socket.inbound = [] ∧
      (∀ source bytes, .meet (.arrive source bytes) ∈ Server.visitDeeds →
        bytes.size ≤ maxPayloadSize) ∧
      (Server.performAll (.started "lobby" 4 8 defaultClientTimeout, h.unused)
        Server.visitDeeds).reached.2.traffic = 4 ∧
      Server.RunFits (.started "lobby" 4 8 defaultClientTimeout, h.unused) Server.visitDeeds ∧
      (Client.performAll (.started .loopback 7 8, h.unused)
        (Client.visitDeeds 4)).reached.2.traffic = 5 ∧
      Client.RunFits (.started .loopback 7 8, h.unused) (Client.visitDeeds 4) := by
  intro h
  have hdirect : h.settings.Direct :=
    Settings.direct_of_zero rfl rfl fun side => by cases side <;> rfl
  have hshort : ∀ source bytes, .meet (.arrive source bytes) ∈ Server.visitDeeds →
      bytes.size ≤ maxPayloadSize := by
    intro source bytes hmem
    simp only [Server.visitDeeds, List.mem_cons, Server.Deed.meet.injEq,
      Incident.arrive.injEq, reduceCtorEq, List.not_mem_nil, or_false, false_or] at hmem
    rcases hmem with ⟨-, rfl⟩ | ⟨-, rfl⟩
    · decide +kernel
    · decide +kernel
  have hserver : (Server.performAll (.started "lobby" 4 8 defaultClientTimeout, h.unused)
      Server.visitDeeds).reached.2.traffic = 4 := by
    decide +kernel
  have hclient : (Client.performAll (.started .loopback 7 8, h.unused)
      (Client.visitDeeds 4)).reached.2.traffic = 5 := by
    decide +kernel
  obtain ⟨hservers, hclients⟩ := h.runs_fit hdirect rfl
  have hserverFits := (hservers "lobby" 4 8 defaultClientTimeout Server.visitDeeds hshort
    (by rw [hserver]; decide)).1
  have hclientFits := (hclients .loopback 7 8 (Client.visitDeeds 4)
    (by rw [hclient]; decide) (by decide)).1
  exact ⟨hdirect, rfl, hshort, hserver, hserverFits, hclient, hclientFits⟩

/-- All that a run brings can be counted, and still it stops, at a probe of which no memory
holds the payload. -/
theorem Client.stopped_by_huge_probe :
    let h := Hub.loopbackOnly { qport := 7 }
    let after := performAll (.started .loopback 7 8, h.unused) (visitDeeds (2 ^ 63))
    h.settings.Direct ∧ h.socket.inbound = [] ∧
      ((visitDeeds (2 ^ 63)).map Deed.arrivals).sum + ((visitDeeds (2 ^ 63)).map Deed.probes).sum +
        after.reached.2.traffic < 2 ^ 32 - 1 ∧
      ((visitDeeds (2 ^ 63)).map Deed.payload).sum < 2 ^ 64 ∧
      after.fault = some .payloadTooLong := by
  intro h after
  have hdirect : h.settings.Direct :=
    Settings.direct_of_zero rfl rfl fun side => by cases side <;> rfl
  exact ⟨hdirect, rfl, by decide +kernel, by decide +kernel, by decide +kernel⟩

end DatagramLink

import DatagramLink.Proofs.ServerOnNetwork
import DatagramLink.Proofs.ServerSteps

/-!
# Accepted requests

The requests for a connection that a server accepts in a frame, in order, with the answers.
`Server.admissions` goes through what waits as the frame does.  It is not part of a server:
it is what an observer of all its answers would note down.
-/

namespace DatagramLink

/-- A request for a connection that a server accepted, and what it answered. -/
structure Admission where
  source : Address
  request : ByteArray
  answer : Command

/-- The client at this endpoint asked for the connection, and the server gave it. -/
structure Admission.GrantedTo (a : Admission) (host : Endpoint) (qport : UInt16) :
    Prop where
  source : a.source = .remote host
  request : Command.ofDatagram? a.request = some (connectRequest qport)
  accepts : Server.isAcceptance a.answer = true

namespace Server

/-- A datagram as an accepted request, if it is one. -/
def admission? (s : Server) (showDrops : Bool) (source : Address) (datagram : ByteArray)
    (now : Instant) : Option Admission :=
  ((s.handle showDrops source datagram now).1.reply.filter isAcceptance).map
    (⟨source, datagram, ·⟩)

/-- The requests that a server accepts while it handles all datagrams that wait. -/
def admissions (s : Server) (h : Hub) (now : Instant) : List Admission :=
  match _hpoll : h.poll .server with
  | (⟨none, _⟩, _) => []
  | (⟨some (source, datagram), records⟩, rest) =>
    (s.admission? (rest.report records).settings.showDrops source datagram now).toList ++
      match _hserve : s.serveDatagram (rest.report records) source datagram now with
      | ⟨_, some _⟩ => []
      | ⟨(served, left), none⟩ => served.admissions left now
termination_by h.waiting .server
decreasing_by exact waiting_served_lt _hpoll _hserve

section
variable {s served : Server} {h rest left : Hub} {source : Address} {datagram : ByteArray}
  {records : List Record} {now : Instant}

theorem admissions_of_none (hpoll : h.poll .server = (⟨none, records⟩, rest)) :
    s.admissions h now = [] := by
  rw [admissions]
  split
  · rfl
  · next heq =>
      rw [hpoll] at heq
      cases heq

theorem admissions_of_stopped
    (hpoll : h.poll .server = (⟨some (source, datagram), records⟩, rest))
    {reached : Server × Hub} {fault : Fault}
    (hserve : s.serveDatagram (rest.report records) source datagram now =
      .stopped reached fault) :
    s.admissions h now =
      (s.admission? (rest.report records).settings.showDrops source datagram now).toList := by
  rw [admissions]
  split
  · next heq =>
      rw [hpoll] at heq
      cases heq
  · next heq =>
      rw [hpoll] at heq
      cases heq
      split
      · exact List.append_nil _
      · next hdone =>
          rw [hserve] at hdone
          cases hdone

theorem admissions_of_some
    (hpoll : h.poll .server = (⟨some (source, datagram), records⟩, rest))
    (hserve : s.serveDatagram (rest.report records) source datagram now =
      .done (served, left)) :
    s.admissions h now =
      (s.admission? (rest.report records).settings.showDrops source datagram now).toList ++
        served.admissions left now := by
  rw [admissions]
  split
  · next heq =>
      rw [hpoll] at heq
      cases heq
  · next heq =>
      rw [hpoll] at heq
      cases heq
      split
      · next hstop =>
          rw [hserve] at hstop
          cases hstop
      · next hdone =>
          rw [hserve] at hdone
          cases hdone
          rfl

end

/-- What handling one datagram keeps while it adds to the accepted requests, handling all
that wait keeps. -/
theorem receiveAll_admissions {P : List Admission → Server × Hub → Prop} {now : Instant}
    (hdone : ∀ {accepted : List Admission} {s : Server} {h rest : Hub}
      {records : List Record}, P accepted (s, h) →
      h.poll .server = (⟨none, records⟩, rest) → P accepted (s, rest.report records))
    (hserve : ∀ {accepted : List Admission} {s : Server} {h rest : Hub} {source : Address}
      {datagram : ByteArray} {records : List Record}, P accepted (s, h) →
      h.poll .server = (⟨some (source, datagram), records⟩, rest) →
      P (accepted ++ (s.admission? (rest.report records).settings.showDrops source datagram
          now).toList)
        (s.serveDatagram (rest.report records) source datagram now).reached)
    {accepted : List Admission} {s : Server} {h : Hub} (hstart : P accepted (s, h)) :
    P (accepted ++ s.admissions h now) (s.receiveAll h now).reached := by
  induction hwaiting : h.waiting .server using Nat.strong_induction_on
    generalizing accepted s h with
  | _ waiting ih =>
      cases hpoll : h.poll .server with
      | mk poll rest =>
          obtain ⟨found, records⟩ := poll
          cases found with
          | none =>
              rw [receiveAll_of_none hpoll, admissions_of_none hpoll, List.append_nil]
              exact hdone hstart hpoll
          | some found =>
              obtain ⟨source, datagram⟩ := found
              have hserved := hserve hstart hpoll
              cases hstep : s.serveDatagram (rest.report records) source datagram now with
              | mk reached fault =>
                  rw [hstep] at hserved
                  cases fault with
                  | some fault =>
                      rw [receiveAll_of_stopped hpoll hstep, admissions_of_stopped hpoll hstep]
                      exact hserved
                  | none =>
                      obtain ⟨served, left⟩ := reached
                      have hless := waiting_served_lt hpoll hstep
                      rw [receiveAll_of_some hpoll hstep, admissions_of_some hpoll hstep,
                        ← List.append_assoc]
                      exact ih _ (hwaiting ▸ hless) hserved rfl

/-! ## Servers of one client -/

/-- What is accepted is what is answered with a connection. -/
theorem answer_admission? (s : Server) (showDrops : Bool) (source : Address)
    (datagram : ByteArray) (now : Instant) :
    (s.admission? showDrops source datagram now).toList.map Admission.answer =
      (s.handle showDrops source datagram now).1.reply.toList.filter isAcceptance := by
  unfold admission?
  cases (s.handle showDrops source datagram now).1.reply with
  | none => rfl
  | some command => by_cases haccepts : isAcceptance command = true <;> simp [haccepts]

section
variable {s : Server} {h : Hub} {accepted : List Admission} {capacity : Nat}
  {host : Endpoint} {qport : UInt16} {next : Nat}

theorem Orderly.admit (horderly : Orderly capacity (accepted.map Admission.answer) s)
    (showDrops : Bool) (source : Address) (datagram : ByteArray) (now : Instant) :
    Orderly capacity
      ((accepted ++ (s.admission? showDrops source datagram now).toList).map
        Admission.answer)
      (s.handle showDrops source datagram now).2 := by
  have hnext := horderly.handle showDrops source datagram now
  refine ⟨hnext.sound, hnext.capacity, ?_⟩
  rw [← hnext.answers, List.map_append, answer_admission?, List.filter_append,
    List.filter_append, List.filter_filter]
  simp only [Bool.and_self]

/-- The client asked for what is accepted. -/
theorem grantedTo_of_admission? (hsound : s.roster.Sound) {bytes : ByteArray}
    (hheard : ClientTells qport bytes) (showDrops : Bool) (now : Instant) {a : Admission}
    (ha : a ∈ s.admission? showDrops (.remote host) bytes now) :
    a.GrantedTo host qport := by
  obtain ⟨reply, after, hreply, -, hhandles⟩ :=
    s.handles hsound showDrops (.remote host) bytes now
  unfold admission? at ha
  rw [hreply] at ha
  obtain ⟨command, haccepts, rfl⟩ := Option.map_eq_some_iff.mp ha
  obtain ⟨hsome, haccepts⟩ := Option.filter_eq_some_iff.mp haccepts
  refine ⟨rfl, ?_, haccepts⟩
  have hname : command.name = "connectResponse" := by simpa [isAcceptance] using haccepts
  cases hhandles with
  | unmoved hno => exact absurd hname (hno command hsome)
  | welcomed hconnectionless hcommand hrequest harguments hroom =>
      rcases hheard hconnectionless _ hcommand with rfl | rfl
      · exact hcommand
      · exact absurd hrequest (by decide)
  | left | heard | probed | parted => cases hsome

/-- A server of one client on a network with the requests that it accepted. -/
structure Admits (host : Endpoint) (qport : UInt16) (capacity next : Nat)
    (accepted : List Admission) (x : Server × Hub) : Prop where
  online : Online host qport next x
  orderly : Orderly capacity (accepted.map Admission.answer) x.1
  requests : ∀ a ∈ accepted, a.GrantedTo host qport

theorem Admits.receiveAll (hadmits : Admits host qport capacity next accepted (s, h))
    (now : Instant) :
    Admits host qport capacity next (accepted ++ s.admissions h now)
      (s.receiveAll h now).reached := by
  refine receiveAll_admissions ?_ ?_ hadmits
  · intro accepted s h rest records hadmits hpoll
    obtain ⟨hrest, -⟩ := hadmits.online.traffic.poll
    rw [hpoll] at hrest
    exact ⟨⟨hadmits.online.bound, hadmits.online.grown, hrest.report records⟩,
      hadmits.orderly, hadmits.requests⟩
  · intro accepted s h rest source bytes records hadmits hpoll
    obtain ⟨hrest, hfound⟩ := hadmits.online.traffic.poll
    rw [hpoll] at hrest hfound
    obtain ⟨endpoint, rfl, rfl, hheard⟩ := hfound source bytes rfl
    have hleft : Online endpoint qport next (s, rest.report records) :=
      ⟨hadmits.online.bound, hadmits.online.grown, hrest.report records⟩
    refine ⟨hleft.serveDatagram hheard now, hadmits.orderly.admit _ _ bytes now, ?_⟩
    intro a ha
    rcases List.mem_append.mp ha with hold | hnew
    · exact hadmits.requests a hold
    · exact grantedTo_of_admission? hadmits.orderly.sound hheard _ now
        (Option.mem_toList.mp hnew)

/-- The answers are the identifiers that were given out, in order. -/
theorem Admits.answers (hadmits : Admits host qport capacity next accepted (s, h)) :
    accepted.map Admission.answer = acceptances (s.roster.nextId - 1) := by
  rw [← hadmits.orderly.answers, eq_comm, List.filter_eq_self]
  intro command hcommand
  obtain ⟨a, ha, rfl⟩ := List.mem_map.mp hcommand
  exact (hadmits.requests a ha).accepts

/-- A frame accepts what it accepts while it handles what waits. -/
theorem Admits.tick (hadmits : Admits host qport capacity next accepted (s, h))
    (now : Instant) (checked : Nat → Instant) :
    Admits host qport capacity next (accepted ++ s.admissions h now)
      (s.tick h now checked).reached := by
  have hreceived := hadmits.receiveAll now
  refine ⟨hadmits.online.tick now checked, ?_, hreceived.requests⟩
  let P : Server × Hub → Prop := fun x =>
    Orderly capacity ((accepted ++ s.admissions h now).map Admission.answer) x.1
  refine Attempt.andThen_reached (P := P) ?_ ?_
  · refine Attempt.andThen_reached (P := P) hreceived.orderly ?_
    intro x hx
    exact hx.pump x.2 now
  · intro x hx
    exact hx.dropSilent x.2 checked

end

end Server
end DatagramLink

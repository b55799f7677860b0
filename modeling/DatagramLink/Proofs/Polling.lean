import Mathlib.Data.List.TakeDrop
import DatagramLink.Hub.ReceiveBuffer
import DatagramLink.Proofs.Inbound

/-!
# Polls one after another

Polls answer what waits for a side, one datagram or failure at a time, and then nothing
(`Hub.answers`).  A datagram that fills the buffer has no answer.  The polls that receive into the
one buffer answer the same, whatever the buffer held before: a poll reads only what the last receive
wrote.
-/

namespace DatagramLink

/-! ## Arrivals -/

namespace Arrival

/-- What a poll answers about an arrival; nothing about a datagram that fills the buffer. -/
def answer? : Arrival → Option (Option (Address × ByteArray))
  | .failure _ => some none
  | .datagram bytes source =>
    if bytes.size < receiveBufferSize then some (some (.remote source, bytes)) else none

/-- What a poll of a side reports about an arrival. -/
def records (settings : Settings) (side : Side) : Arrival → List Record
  | .failure reason => [.warn s!"Failed to receive packet: {reason}"]
  | .datagram bytes source =>
    if bytes.size < receiveBufferSize then Hub.receivedRecords settings side bytes source
    else [.warn s!"Oversize packet from {source}"]

end Arrival

namespace Hub

variable {side : Side} {h : Hub}

/-- What polls answer until nothing waits for a side. -/
def answers (h : Hub) (side : Side) : List (Option (Address × ByteArray)) :=
  (h.ringOf side).unread.map (fun bytes => some (.loopback, bytes)) ++
    h.socket.inbound.filterMap Arrival.answer?

theorem size_received (bytes : ByteArray) :
    (received bytes).size = min bytes.size receiveBufferSize := by
  rw [received, ByteArray.size_extract, Nat.sub_zero, Nat.min_comm]

/-- What one poll takes from a socket. -/
structure TakesInbound (settings : Settings) (side : Side) (before : List Arrival) (poll : Poll)
    (after : List Arrival) : Prop where
  found : poll.found = (before.filterMap Arrival.answer?).head?.getD none
  later : after.filterMap Arrival.answer? = (before.filterMap Arrival.answer?).tail
  emptied : before.filterMap Arrival.answer? = [] → after = []
  reported : ∃ gone, before = gone ++ after ∧
    poll.records = gone.flatMap (Arrival.records settings side)

theorem takesInbound_pollInbound (settings : Settings) (side : Side) (inbound : List Arrival) :
    TakesInbound settings side inbound (pollInbound settings side inbound).1
      (pollInbound settings side inbound).2 := by
  induction inbound with
  | nil => exact ⟨rfl, rfl, fun _ => rfl, [], rfl, rfl⟩
  | cons arrival rest ih =>
      cases arrival with
      | failure reason =>
          have hanswer : (Arrival.failure reason).answer? = some none := rfl
          refine ⟨rfl, rfl, fun hnone => ?_, [.failure reason], rfl, rfl⟩
          rw [List.filterMap_cons_some hanswer] at hnone
          cases hnone
      | datagram bytes source =>
          by_cases hfull : receiveBufferSize ≤ (received bytes).size
          · have hlong : ¬ bytes.size < receiveBufferSize := by
              rw [size_received] at hfull
              omega
            have hskip : (Arrival.datagram bytes source).answer? = none := if_neg hlong
            obtain ⟨gone, hrest, hrecords⟩ := ih.reported
            simp only [pollInbound, if_pos hfull]
            refine ⟨?_, ?_, ?_, .datagram bytes source :: gone, congrArg _ hrest, ?_⟩
            · rw [List.filterMap_cons_none hskip, ih.found]
            · rw [List.filterMap_cons_none hskip, ih.later]
            · rw [List.filterMap_cons_none hskip]
              exact ih.emptied
            · rw [List.flatMap_cons, Arrival.records, if_neg hlong, hrecords,
                List.singleton_append]
          · have hshort : bytes.size < receiveBufferSize := by
              rw [size_received] at hfull
              omega
            have hanswer : (Arrival.datagram bytes source).answer? =
                some (some (.remote source, bytes)) := if_pos hshort
            simp only [pollInbound, if_neg hfull]
            rw [received_of_fits hfull]
            refine ⟨?_, ?_, fun hnone => ?_, [.datagram bytes source], rfl, ?_⟩
            · rw [List.filterMap_cons_some hanswer, List.head?_cons, Option.getD_some]
            · rw [List.filterMap_cons_some hanswer, List.tail_cons]
            · rw [List.filterMap_cons_some hanswer] at hnone
              cases hnone
            · rw [List.flatMap_singleton, Arrival.records, if_pos hshort]

/-! ## Polls -/

/-- What `count` polls of a side took from a hub. -/
structure Polled (side : Side) (before : Hub) (count : Nat) (polls : List Poll) (after : Hub) :
    Prop where
  /-- They found what waited, in order, a failure as nothing, and then nothing more. -/
  found : polls.map Poll.found = (before.answers side).takeD count none
  /-- Later polls go on with what comes next. -/
  later : after.answers side = (before.answers side).drop count
  /-- Nothing waits any more once a poll came too late for an answer. -/
  emptied : (before.answers side).length < count → after.waiting side = 0
  /-- What they reported is about the arrivals that are gone. -/
  reported : ∃ gone, before.socket.inbound = gone ++ after.socket.inbound ∧
    polls.flatMap Poll.records = gone.flatMap (Arrival.records before.settings side)
  /-- Nothing else changed. -/
  rest : after =
    { before.setRing side (after.ringOf side) with
      socket := { before.socket with inbound := after.socket.inbound } }

theorem polled_none (side : Side) (h : Hub) : Polled side h 0 [] h where
  found := rfl
  later := rfl
  emptied := fun hless => absurd hless (Nat.not_lt_zero _)
  reported := ⟨[], rfl, rfl⟩
  rest := by cases side <;> rfl

/-- One poll takes the first answer. -/
theorem polled_poll (side : Side) (h : Hub) :
    Polled side h 1 [(h.poll side).1] (h.poll side).2 := by
  cases hunread : (h.ringOf side).unread with
  | cons bytes later =>
      obtain ⟨ring, -, hlater, hpoll⟩ := poll_of_unread hunread
      rw [hpoll]
      refine ⟨?_, ?_, ?_, ⟨[], ?_, rfl⟩, ?_⟩
      · simp only [answers, hunread, List.map_cons, List.map_nil, List.cons_append,
          List.takeD_succ, List.head?_cons, Option.getD_some, List.takeD_zero]
      · simp only [answers, hunread, ringOf_setRing, socket_setRing, hlater, List.map_cons,
          List.cons_append, List.drop_one, List.tail_cons]
      · simp only [answers, hunread, List.map_cons, List.cons_append, List.length_cons]
        omega
      · rw [socket_setRing, List.nil_append]
      · cases side <;> rfl
  | nil =>
      have htakes := takesInbound_pollInbound h.settings side h.socket.inbound
      have hanswers : h.answers side = h.socket.inbound.filterMap Arrival.answer? := by
        rw [answers, hunread, List.map_nil, List.nil_append]
      have hrest : (h.pollSocket side).2.answers side =
          (h.pollSocket side).2.socket.inbound.filterMap Arrival.answer? := by
        rw [answers, ringOf_pollSocket, hunread, List.map_nil, List.nil_append]
      rw [poll_of_no_unread hunread]
      refine ⟨?_, ?_, ?_, ?_, ?_⟩
      · rw [hanswers, List.map_singleton, List.takeD_succ, List.takeD_zero]
        exact congrArg (fun found => [found]) htakes.found
      · rw [hrest, hanswers, List.drop_one]
        exact htakes.later
      · rw [hanswers, Nat.lt_one_iff, List.length_eq_zero_iff]
        intro hnone
        have hempty : (h.pollSocket side).2.socket.inbound = [] := htakes.emptied hnone
        rw [waiting, ringOf_pollSocket, hempty, ← Ring.length_unread, hunread]
        rfl
      · rw [List.flatMap_singleton]
        exact htakes.reported
      · cases side <;> rfl

theorem waiting_polls_le (h : Hub) (side : Side) (count : Nat) :
    (h.polls side count).2.waiting side ≤ h.waiting side := by
  induction count generalizing h with
  | zero => exact Nat.le_refl _
  | succ count ih => exact (ih (h.poll side).2).trans (h.waiting_poll_le side)

/-- Polls one after another take the answers one after another. -/
theorem polled_polls (side : Side) (h : Hub) (count : Nat) :
    Polled side h count (h.polls side count).1 (h.polls side count).2 := by
  induction count generalizing h with
  | zero => exact polled_none side h
  | succ count ih =>
      have hfirst := polled_poll side h
      have hlater := ih (h.poll side).2
      have hsplit : h.polls side (count + 1) =
          ((h.poll side).1 :: ((h.poll side).2.polls side count).1,
            ((h.poll side).2.polls side count).2) := rfl
      have hanswers : (h.poll side).2.answers side = (h.answers side).tail := by
        rw [hfirst.later, List.drop_one]
      rw [hsplit]
      refine ⟨?_, ?_, ?_, ?_, ?_⟩
      · have hhead : (h.poll side).1.found = (h.answers side).head?.getD none := by
          simpa using hfirst.found
        rw [List.map_cons, hhead, hlater.found, hanswers, List.takeD_succ]
      · rw [hlater.later, hanswers, ← List.drop_one, List.drop_drop, Nat.add_comm]
      · intro hless
        cases hnone : h.answers side with
        | nil =>
            -- the first poll leaves nothing, and no later one adds to it
            have hempty : (h.poll side).2.waiting side = 0 :=
              hfirst.emptied (by rw [hnone]; exact Nat.zero_lt_one)
            have hle := waiting_polls_le (h.poll side).2 side count
            rw [hempty] at hle
            exact Nat.le_zero.mp hle
        | cons answer later =>
            refine hlater.emptied ?_
            rw [hnone, List.length_cons] at hless
            rw [hanswers, hnone, List.tail_cons]
            exact Nat.lt_of_succ_lt_succ hless
      · obtain ⟨gone, hgone, hrecords⟩ := hfirst.reported
        obtain ⟨further, hfurther, hreports⟩ := hlater.reported
        have hsettings : (h.poll side).2.settings = h.settings := by
          rw [hfirst.rest]
          exact settings_setRing h side _
        refine ⟨gone ++ further, ?_, ?_⟩
        · rw [hgone, hfurther, List.append_assoc]
        · rw [List.flatMap_singleton] at hrecords
          rw [hsettings] at hreports
          rw [List.flatMap_cons, List.flatMap_append, hrecords, hreports]
      · refine hlater.rest.trans ?_
        rw [hfirst.rest]
        cases side <;> rfl

/-! ## The buffer -/

/-- What lies behind the datagram is not read. -/
theorem front_overwrite (b : ReceiveBuffer) (datagram : ByteArray) :
    (b.overwrite datagram).front (min datagram.size receiveBufferSize) = received datagram := by
  rw [← size_received]
  exact ByteArray.extract_append_eq_left rfl

section

variable {b : ReceiveBuffer} {rest : List Arrival}

theorem receiveInto_of_nil (hinbound : h.socket.inbound = []) :
    h.receiveInto side b = (⟨none, []⟩, h, b) := by
  have hreceive : h.socket.receive b = (.nothing, h.socket, b) := by
    rw [Socket.receive, hinbound]
  rw [receiveInto]
  split <;> rename_i heq <;> rw [hreceive] at heq <;> cases heq
  rfl

theorem receiveInto_of_failure {reason : String}
    (hinbound : h.socket.inbound = .failure reason :: rest) :
    h.receiveInto side b =
      (⟨none, [.warn s!"Failed to receive packet: {reason}"]⟩,
        { h with socket := { h.socket with inbound := rest } }, b) := by
  have hreceive : h.socket.receive b =
      (.failure reason, { h.socket with inbound := rest }, b) := by
    rw [Socket.receive, hinbound]
  rw [receiveInto]
  split <;> rename_i heq <;> rw [hreceive] at heq <;> cases heq
  rfl

theorem receiveInto_of_datagram {bytes : ByteArray} {source : Endpoint}
    (hinbound : h.socket.inbound = .datagram bytes source :: rest) :
    h.receiveInto side b =
      if receiveBufferSize ≤ (received bytes).size then
        match
          receiveInto { h with socket := { h.socket with inbound := rest } } side
            (b.overwrite bytes)
        with
        | (poll, h, b) =>
          ({ poll with records := .warn s!"Oversize packet from {source}" :: poll.records }, h, b)
      else
        (⟨some (.remote source, received bytes),
            receivedRecords h.settings side (received bytes) source⟩,
          { h with socket := { h.socket with inbound := rest } }, b.overwrite bytes) := by
  have hreceive : h.socket.receive b =
      (.datagram (min bytes.size receiveBufferSize) source,
        { h.socket with inbound := rest }, b.overwrite bytes) := by
    rw [Socket.receive, hinbound]
  rw [receiveInto, size_received]
  split <;> rename_i heq <;> rw [hreceive] at heq <;> cases heq
  rw [front_overwrite]

end

/-- Receiving through a buffer is receiving without one. -/
theorem receiveInto_eq (h : Hub) (side : Side) (b : ReceiveBuffer) :
    ∃ filled, h.receiveInto side b = ((h.pollSocket side).1, (h.pollSocket side).2, filled) := by
  induction hinbound : h.socket.inbound generalizing h b with
  | nil =>
      refine ⟨b, ?_⟩
      rw [receiveInto_of_nil hinbound]
      simp only [pollSocket, hinbound, pollInbound]
      rw [← hinbound]
  | cons arrival rest ih =>
      cases arrival with
      | failure reason =>
          refine ⟨b, ?_⟩
          rw [receiveInto_of_failure hinbound]
          simp only [pollSocket, hinbound, pollInbound]
      | datagram bytes source =>
          obtain ⟨filled, hrest⟩ :=
            ih { h with socket := { h.socket with inbound := rest } } (b.overwrite bytes) rfl
          by_cases hfull : receiveBufferSize ≤ (received bytes).size
          · refine ⟨filled, ?_⟩
            rw [receiveInto_of_datagram hinbound, if_pos hfull, hrest]
            simp only [pollSocket, hinbound, pollInbound, if_pos hfull]
          · refine ⟨b.overwrite bytes, ?_⟩
            rw [receiveInto_of_datagram hinbound, if_neg hfull]
            simp only [pollSocket, hinbound, pollInbound, if_neg hfull]

theorem pollInto_eq (h : Hub) (side : Side) (b : ReceiveBuffer) :
    ∃ filled, h.pollInto side b = ((h.poll side).1, (h.poll side).2, filled) := by
  rw [pollInto, poll]
  cases hring : h.pollRing side with
  | mk found left =>
      cases found with
      | none => exact receiveInto_eq left side b
      | some bytes => exact ⟨b, rfl⟩

theorem pollsInto_eq (h : Hub) (side : Side) (b : ReceiveBuffer) (count : Nat) :
    ∃ filled, h.pollsInto side b count =
      ((h.polls side count).1, (h.polls side count).2, filled) := by
  induction count generalizing h b with
  | zero => exact ⟨b, rfl⟩
  | succ count ih =>
      obtain ⟨filled, hfirst⟩ := pollInto_eq h side b
      obtain ⟨last, hlater⟩ := ih (h.poll side).2 filled
      refine ⟨last, ?_⟩
      rw [pollsInto, hfirst]
      simp only
      rw [hlater]
      rfl

/-- Any number of polls that share a buffer drain what waits for a side, its ring first, whatever
the buffer held before. -/
theorem polls_drain_into_any_buffer (h : Hub) (side : Side) (b : ReceiveBuffer) (count : Nat) :
    ∃ polls after filled, h.pollsInto side b count = (polls, after, filled) ∧
      h.polls side count = (polls, after) ∧ Polled side h count polls after := by
  obtain ⟨filled, hpolls⟩ := pollsInto_eq h side b count
  exact ⟨_, _, filled, hpolls, rfl, polled_polls side h count⟩

/-- A datagram for each source, with an oversize one and a failure in between, and a buffer
that holds more than any of them brings. -/
theorem polls_drain_into_any_buffer_of_leftovers :
    let far : Endpoint := .v4 ⟨#v[10, 0, 0, 2]⟩ 5001
    let oversize : ByteArray := ⟨Array.replicate receiveBufferSize 7⟩
    let h : Hub :=
      { settings := { qport := 1 }
        toClient := Ring.empty.push ⟨#[1]⟩
        socket :=
          { Socket.bound (.v4 ⟨#v[10, 0, 0, 1]⟩ 5000) with
            inbound :=
              [.datagram oversize far, .datagram ⟨#[2, 3]⟩ far, .failure "connection refused",
                .datagram ⟨#[4]⟩ far] } }
    let b := ReceiveBuffer.blank.overwrite "leftover".toUTF8
    ∃ polls after filled, h.pollsInto .client b 5 = (polls, after, filled) ∧
      polls.map Poll.found =
        [some (.loopback, ⟨#[1]⟩), some (.remote far, ⟨#[2, 3]⟩), none,
          some (.remote far, ⟨#[4]⟩), none] ∧
      after.waiting .client = 0 := by
  intro far oversize h b
  have hsize : oversize.size = receiveBufferSize := Array.size_replicate
  have hoversize : (Arrival.datagram oversize far).answer? = none := by
    rw [Arrival.answer?, hsize, if_neg (Nat.lt_irrefl _)]
  have hanswers : h.answers .client =
      [some (.loopback, ⟨#[1]⟩), some (.remote far, ⟨#[2, 3]⟩), none,
        some (.remote far, ⟨#[4]⟩)] := by
    rw [answers, List.filterMap_cons_none hoversize]
    rfl
  obtain ⟨polls, after, filled, hinto, -, hpolled⟩ := h.polls_drain_into_any_buffer .client b 5
  refine ⟨polls, after, filled, hinto, ?_, hpolled.emptied ?_⟩
  · rw [hpolled.found, hanswers]
    rfl
  · rw [hanswers]
    decide

end Hub
end DatagramLink

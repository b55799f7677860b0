import DatagramLink.Hub

/-!
# Constant latency

Without loss and without a random part, a delay line does nothing but delay.  Two sides
with different delays may share it, and a side without a delay goes past it, so the order
of the line is not the order in which datagrams leave.  Still each side has its datagrams
offered to the socket in the order in which it sent them, each once and none too early.

A hub does not keep from which side a datagram comes.  `Settings.Traced` puts every offer
and everything that is held down to the posting it comes from; what it says about a side is
about these postings.
-/

namespace DatagramLink

/-! ## Calls -/

/-- A datagram that a side sends over the network, and when. -/
structure Posting where
  side : Side
  datagram : Datagram
  sentAt : Instant

/-- A use of the way to the network. -/
inductive NetworkCall where
  | send (p : Posting)
  | flush (now : Instant)

namespace NetworkCall

def now : NetworkCall → Instant
  | .send p => p.sentAt
  | .flush now => now

def posting? : NetworkCall → Option Posting
  | .send p => some p
  | .flush _ => none

end NetworkCall

/-- What was sent in some calls, in order. -/
def postings (calls : List NetworkCall) : List Posting := calls.filterMap NetworkCall.posting?

/-- A datagram that a socket was offered, and when. -/
structure Departure where
  datagram : Datagram
  leftAt : Instant
  deriving DecidableEq

def Posting.leaveAt (p : Posting) (now : Instant) : Departure := ⟨p.datagram, now⟩

namespace Hub

def useNetwork (h : Hub) : NetworkCall → Attempt Hub
  | .send p => h.send p.side p.datagram.bytes (.remote p.datagram.target) p.sentAt
  | .flush now => .done (h.flush now).2

/-- Makes a call, and notes with its time what the socket is offered during it. -/
def watch : List Departure × Hub → NetworkCall → Attempt (List Departure × Hub)
  | (log, h), call =>
      (h.useNetwork call).map fun after =>
        (log ++ (after.socket.offers.toList.drop h.socket.offers.size).map
          (⟨·.datagram, call.now⟩), after)

/-- The same hub with no delay for either side. -/
def undelayed (h : Hub) : Hub :=
  { h with settings := { h.settings with clientDelay := 0, serverDelay := 0 } }

end Hub

/-- No loss on purpose and no random part of the delays. -/
structure Settings.Regular (s : Settings) : Prop where
  lossless : s.simulatesLoss = false
  even : s.jitter = 0

theorem Settings.regular_of_zero {s : Settings} (hloss : s.lossPercent = 0)
    (hjitter : s.jitter = 0) :
    s.Regular := by
  refine ⟨?_, hjitter⟩
  rw [Settings.simulatesLoss, hloss]
  decide

/-! ## Where datagrams come from -/

/-- When a posting may leave. -/
def Settings.release (s : Settings) (p : Posting) : Instant :=
  p.sentAt + milliseconds (s.delay p.side)

def Settings.held (s : Settings) (p : Posting) : Held := ⟨s.release p, p.datagram⟩

/-- The postings of a side. -/
def bySide (side : Side) (ps : List Posting) : List Posting := ps.filter (·.side = side)

/-- All that was offered is put down to the postings that are gone, and all that is held
to those that wait. -/
structure Settings.Traced (s : Settings) (sent : List Posting) (log : List Departure)
    (line : DelayLine) (gone : List (Posting × Instant)) (waiting : List Posting) :
    Prop where
  log : log = gone.map fun x => x.1.leaveAt x.2
  line : line.held = waiting.map s.held
  /-- What is gone and then what waits is what the side sent, in order and each once. -/
  complete : ∀ side,
    bySide side (gone.map Prod.fst) ++ bySide side waiting = bySide side sent
  punctual : ∀ x ∈ gone, s.release x.1 ≤ x.2
  delayed : ∀ p ∈ waiting, 0 < s.delay p.side

theorem Settings.Traced.bySide_gone {s : Settings} {sent : List Posting}
    {log : List Departure} {line : DelayLine} {gone : List (Posting × Instant)}
    (htraced : s.Traced sent log line gone []) (side : Side) :
    bySide side (gone.map Prod.fst) = bySide side sent := by
  rw [← htraced.complete side]
  exact (List.append_nil _).symm

theorem bySide_append (side : Side) (ps qs : List Posting) :
    bySide side (ps ++ qs) = bySide side ps ++ bySide side qs :=
  List.filter_append ps qs

theorem bySide_singleton (side : Side) (p : Posting) :
    bySide side [p] = if p.side = side then [p] else [] := by
  by_cases hside : p.side = side <;> simp [bySide, hside]

theorem postings_cons (call : NetworkCall) (calls : List NetworkCall) :
    postings (call :: calls) = call.posting?.toList ++ postings calls := by
  cases call <;> rfl

theorem postings_flush (calls : List NetworkCall) (now : Instant) :
    postings (calls ++ [.flush now]) = postings calls := by
  rw [postings, List.filterMap_append]
  exact List.append_nil _

/-- Where whatever follows an element that stays stays as well, the elements that go and
then those that stay are all of them in order. -/
theorem filter_append_filter_not {α : Type} {goes : α → Bool} {xs : List α}
    (hdown : xs.Pairwise fun x y => goes y = true → goes x = true) :
    xs.filter goes ++ xs.filter (!goes ·) = xs := by
  induction xs with
  | nil => rfl
  | cons x xs ih =>
      obtain ⟨hfirst, hrest⟩ := List.pairwise_cons.mp hdown
      cases hgoes : goes x with
      | true => simp [hgoes, ih hrest]
      | false =>
          have hstay : ∀ y ∈ xs, goes y = false := by
            intro y hy
            rw [Bool.eq_false_iff]
            intro hgo
            rw [hfirst y hy hgo] at hgoes
            cases hgoes
          have hnone : xs.filter goes = [] := by
            rw [List.filter_eq_nil_iff]
            intro y hy
            simp [hstay y hy]
          have hall : xs.filter (!goes ·) = xs := by
            rw [List.filter_eq_self]
            intro y hy
            simp [hstay y hy]
          simp [hgoes, hnone, hall]

/-! ## One call -/

namespace Hub

variable {h : Hub}

theorem offer_spec (h : Hub) (d : Datagram) (attempt : String) :
    ∃ refusal, (h.offer d attempt).socket.offers = h.socket.offers.push ⟨d, refusal⟩ ∧
      (h.offer d attempt).settings = h.settings ∧
      (h.offer d attempt).delayed = h.delayed := by
  refine ⟨h.socket.refusal h.socket.offers.size d.target, ?_⟩
  unfold offer Socket.send
  cases h.socket.refusal h.socket.offers.size d.target with
  | none => exact ⟨rfl, rfl, rfl⟩
  | some reason => exact ⟨rfl, rfl, rfl⟩

theorem settings_reportIf (h : Hub) (shown : Bool) (record : Record) :
    (h.reportIf shown record).settings = h.settings := by
  unfold reportIf
  split <;> rfl

theorem socket_reportIf (h : Hub) (shown : Bool) (record : Record) :
    (h.reportIf shown record).socket = h.socket := by
  unfold reportIf
  split <;> rfl

theorem delayed_reportIf (h : Hub) (shown : Bool) (record : Record) :
    (h.reportIf shown record).delayed = h.delayed := by
  unfold reportIf
  split <;> rfl

theorem offers_foldl (due : List Held) (h : Hub) :
    let after := due.foldl (fun h x => h.offer x.datagram "flush delayed packet") h
    (∃ made, after.socket.offers.toList = h.socket.offers.toList ++ made ∧
      made.map Offer.datagram = due.map Held.datagram) ∧
      after.settings = h.settings ∧ after.delayed = h.delayed := by
  induction due generalizing h with
  | nil => exact ⟨⟨[], by simp, rfl⟩, rfl, rfl⟩
  | cons x due ih =>
      obtain ⟨refusal, hoffers, hsettings, hdelayed⟩ :=
        h.offer_spec x.datagram "flush delayed packet"
      obtain ⟨⟨made, hmade, hdue⟩, hkept, hline⟩ :=
        ih (h.offer x.datagram "flush delayed packet")
      refine ⟨⟨⟨x.datagram, refusal⟩ :: made, ?_, ?_⟩, hkept.trans hsettings,
        hline.trans hdelayed⟩
      · rw [List.foldl_cons, hmade, hoffers]
        simp
      · simp [hdue]

theorem flush_spec (h : Hub) (now : Instant) :
    (∃ made,
      (h.flush now).2.socket.offers.toList = h.socket.offers.toList ++ made ∧
        made.map Offer.datagram =
          (h.delayed.held.filter (DelayLine.isDue now)).map Held.datagram) ∧
      (h.flush now).2.settings = h.settings ∧
      (h.flush now).2.delayed.held = h.delayed.held.filter (!DelayLine.isDue now ·) := by
  obtain ⟨hmade, hsettings, hdelayed⟩ :=
    offers_foldl (h.delayed.release now).1 { h with delayed := (h.delayed.release now).2 }
  exact ⟨hmade, hsettings, congrArg DelayLine.held hdelayed⟩

/-- Without loss a datagram for the network waits as long as its side's delay, or is
offered at once where there is none. -/
theorem send_spec (hregular : h.settings.Regular) (side : Side) (d : Datagram)
    (now : Instant) :
    ∃ after, h.send side d.bytes (.remote d.target) now = .done after ∧
      after.settings = h.settings ∧
      (h.settings.delay side = 0 →
        (∃ refusal, after.socket.offers = h.socket.offers.push ⟨d, refusal⟩) ∧
          after.delayed = h.delayed) ∧
      (0 < h.settings.delay side →
        after.socket = h.socket ∧
          after.delayed = h.delayed.push d (milliseconds (h.settings.delay side)) now) := by
  obtain ⟨hlossless, heven⟩ := hregular
  generalize hshown : h.reportIf h.settings.showPackets
    (.info s!"{side} send {d.bytes.size} bytes to {Address.remote d.target}") = g
  have hsettings : g.settings = h.settings := by rw [← hshown, settings_reportIf]
  have hsocket : g.socket = h.socket := by rw [← hshown, socket_reportIf]
  have hdelayed : g.delayed = h.delayed := by rw [← hshown, delayed_reportIf]
  have hsend : h.send side d.bytes (.remote d.target) now = g.sendRemote side d now := by
    rw [← hshown]
    rfl
  have hloss : g.rollLoss = (false, g) := by
    rw [rollLoss, hsettings, hlossless]
    rfl
  have hdelay : g.rollDelay side = (some (h.settings.delay side), g) := by
    rw [rollDelay, hsettings, heven]
    rfl
  have hlatency : g.settings.simulatesLatency side = decide (0 < h.settings.delay side) := by
    rw [hsettings, Settings.simulatesLatency, heven]
    simp
  rw [hsend, sendRemote, hloss]
  simp only [hlatency, decide_eq_true_eq]
  by_cases hwaits : 0 < h.settings.delay side
  · rw [if_pos hwaits, hold, hdelay]
    refine ⟨_, rfl, hsettings, fun hnone => absurd hnone (Nat.ne_of_gt hwaits), fun _ => ?_⟩
    exact ⟨hsocket, by rw [← hdelayed]⟩
  · rw [if_neg hwaits]
    obtain ⟨refusal, hoffers, hkept, hline⟩ := g.offer_spec d "send packet"
    refine ⟨_, rfl, hkept.trans hsettings, fun _ => ⟨⟨refusal, ?_⟩, hline.trans hdelayed⟩,
      fun hpos => absurd hpos hwaits⟩
    rw [hoffers, hsocket]

/-! ## Runs -/

variable {log : List Departure} {sent : List Posting} {gone : List (Posting × Instant)}
  {waiting : List Posting}

theorem watch_of_offers {call : NetworkCall} {after : Hub} {made : List Offer}
    (hcall : h.useNetwork call = .done after)
    (hoffers : after.socket.offers.toList = h.socket.offers.toList ++ made)
    (log : List Departure) :
    watch (log, h) call =
      .done (log ++ (made.map Offer.datagram).map (⟨·, call.now⟩), after) := by
  have hnew : after.socket.offers.toList.drop h.socket.offers.size = made := by
    rw [hoffers, ← Array.length_toList, List.drop_left]
  simp only [watch, hcall, hnew, Attempt.map_done, List.map_map]
  rfl

theorem bySide_of_undelayed (htraced : h.settings.Traced sent log h.delayed gone waiting)
    {side : Side} (hnone : h.settings.delay side = 0) :
    bySide side waiting = [] := by
  rw [bySide, List.filter_eq_nil_iff]
  intro p hp hside
  have hpos := htraced.delayed p hp
  rw [of_decide_eq_true hside, hnone] at hpos
  exact Nat.lt_irrefl 0 hpos

theorem watch_send (hregular : h.settings.Regular)
    (htraced : h.settings.Traced sent log h.delayed gone waiting) (p : Posting) :
    ∃ log' after gone' waiting',
      watch (log, h) (.send p) = .done (log', after) ∧ after.settings = h.settings ∧
        h.settings.Traced (sent ++ [p]) log' after.delayed gone' waiting' := by
  obtain ⟨after, hsend, hsettings, hdirect, hdelayed⟩ :=
    h.send_spec hregular p.side p.datagram p.sentAt
  have hcall : h.useNetwork (.send p) = .done after := hsend
  rcases Nat.eq_zero_or_pos (h.settings.delay p.side) with hnone | hpos
  · obtain ⟨⟨refusal, hoffers⟩, hline⟩ := hdirect hnone
    have hmade : after.socket.offers.toList =
        h.socket.offers.toList ++ [⟨p.datagram, refusal⟩] := by
      rw [hoffers, Array.toList_push]
    refine ⟨_, after, gone ++ [(p, p.sentAt)], waiting, watch_of_offers hcall hmade log,
      hsettings, ?_⟩
    constructor
    · rw [htraced.log]
      simp [Posting.leaveAt, NetworkCall.now]
    · rw [hline]
      exact htraced.line
    · intro side
      rw [List.map_append, bySide_append, bySide_append, ← htraced.complete side,
        List.map_singleton, bySide_singleton]
      by_cases hside : p.side = side
      · have hempty : bySide side waiting = [] := by
          rw [← hside]
          exact bySide_of_undelayed htraced hnone
        simp [hempty]
      · simp [hside]
    · intro x hx
      rcases List.mem_append.mp hx with hx | hx
      · exact htraced.punctual x hx
      · rw [List.mem_singleton.mp hx, Settings.release, hnone]
        exact Int.le_of_eq (Int.add_zero p.sentAt)
    · exact htraced.delayed
  · obtain ⟨hsocket, hline⟩ := hdelayed hpos
    have hmade : after.socket.offers.toList = h.socket.offers.toList ++ [] := by
      rw [hsocket, List.append_nil]
    refine ⟨_, after, gone, waiting ++ [p], watch_of_offers hcall hmade log, hsettings, ?_⟩
    constructor
    · simpa using htraced.log
    · rw [hline, DelayLine.push, htraced.line]
      simp [Settings.held, Settings.release]
    · intro side
      rw [bySide_append, bySide_append, ← htraced.complete side, List.append_assoc]
    · exact htraced.punctual
    · intro q hq
      rcases List.mem_append.mp hq with hq | hq
      · exact htraced.delayed q hq
      · rw [List.mem_singleton.mp hq]
        exact hpos

/-- What a flush lets go of a side's datagrams are the first ones of those that wait. -/
theorem bySide_flush (htraced : h.settings.Traced sent log h.delayed gone waiting)
    (hordered : sent.Pairwise fun p q => p.sentAt ≤ q.sentAt) (now : Instant)
    (side : Side) :
    bySide side (waiting.filter fun p => h.settings.release p ≤ now) ++
        bySide side (waiting.filter fun p => !decide (h.settings.release p ≤ now)) =
      bySide side waiting := by
  have hsuffix : (bySide side waiting).Sublist sent := by
    have hall : (bySide side waiting).Sublist (bySide side sent) := by
      rw [← htraced.complete side]
      exact List.sublist_append_right _ _
    exact hall.trans List.filter_sublist
  have hside : ∀ p ∈ bySide side waiting, p.side = side := by
    intro p hp
    exact of_decide_eq_true (List.mem_filter.mp hp).2
  have hdown : (bySide side waiting).Pairwise fun p q =>
      decide (h.settings.release q ≤ now) = true →
        decide (h.settings.release p ≤ now) = true := by
    refine (hordered.sublist hsuffix).imp_of_mem ?_
    intro p q hp hq hle hdue
    -- one side has one delay, so what was sent first is released first
    rw [decide_eq_true_eq, Settings.release, hside q hq] at hdue
    rw [decide_eq_true_eq, Settings.release, hside p hp]
    exact Int.le_trans (Int.add_le_add_right hle _) hdue
  have hswap : ∀ goes : Posting → Bool,
      bySide side (waiting.filter goes) = (bySide side waiting).filter goes := by
    intro goes
    simp only [bySide, List.filter_filter, Bool.and_comm]
  rw [hswap, hswap]
  exact filter_append_filter_not hdown

theorem watch_flush (htraced : h.settings.Traced sent log h.delayed gone waiting)
    (hordered : sent.Pairwise fun p q => p.sentAt ≤ q.sentAt) (now : Instant) :
    ∃ log' after gone',
      watch (log, h) (.flush now) = .done (log', after) ∧ after.settings = h.settings ∧
        h.settings.Traced sent log' after.delayed gone'
          (waiting.filter fun p => !decide (h.settings.release p ≤ now)) := by
  obtain ⟨⟨made, hoffers, hmade⟩, hsettings, hline⟩ := h.flush_spec now
  have hcall : h.useNetwork (.flush now) = .done (h.flush now).2 := rfl
  have hgo : made.map Offer.datagram =
      (waiting.filter fun p => h.settings.release p ≤ now).map Posting.datagram := by
    rw [hmade, htraced.line, List.filter_map, List.map_map]
    rfl
  refine ⟨_, (h.flush now).2,
    gone ++ (waiting.filter fun p => h.settings.release p ≤ now).map (·, now),
    watch_of_offers hcall hoffers log, hsettings, ?_⟩
  constructor
  · rw [htraced.log, hgo, List.map_append, List.map_map, List.map_map]
    rfl
  · rw [hline, htraced.line, List.filter_map]
    rfl
  · intro side
    have hfront : ((waiting.filter fun p => h.settings.release p ≤ now).map (·, now)).map
        Prod.fst = waiting.filter fun p => h.settings.release p ≤ now := by
      rw [List.map_map]
      exact List.map_id _
    rw [List.map_append, hfront, bySide_append, List.append_assoc,
      bySide_flush htraced hordered now side]
    exact htraced.complete side
  · intro x hx
    rcases List.mem_append.mp hx with hx | hx
    · exact htraced.punctual x hx
    · obtain ⟨p, hp, rfl⟩ := List.mem_map.mp hx
      exact of_decide_eq_true (List.mem_filter.mp hp).2
  · intro p hp
    exact htraced.delayed p (List.mem_filter.mp hp).1

theorem watch_run (hregular : h.settings.Regular)
    (htraced : h.settings.Traced sent log h.delayed gone waiting)
    (calls : List NetworkCall)
    (hordered : (sent ++ postings calls).Pairwise fun p q => p.sentAt ≤ q.sentAt) :
    ∃ log' after gone' waiting',
      Attempt.forEach watch calls (log, h) = .done (log', after) ∧
        after.settings = h.settings ∧
        h.settings.Traced (sent ++ postings calls) log' after.delayed gone' waiting' := by
  induction calls generalizing h log sent gone waiting with
  | nil =>
      refine ⟨log, h, gone, waiting, rfl, rfl, ?_⟩
      rw [postings, List.filterMap_nil, List.append_nil]
      exact htraced
  | cons call rest ih =>
      have hsent : sent ++ postings (call :: rest) =
          (sent ++ call.posting?.toList) ++ postings rest := by
        rw [postings_cons, List.append_assoc]
      have hstep : ∃ log₁ h₁ gone₁ waiting₁,
          watch (log, h) call = .done (log₁, h₁) ∧ h₁.settings = h.settings ∧
            h.settings.Traced (sent ++ call.posting?.toList) log₁ h₁.delayed gone₁
              waiting₁ := by
        cases call with
        | send p => exact watch_send hregular htraced p
        | flush now =>
            have hbefore := (List.pairwise_append.mp hordered).1
            have hnone : sent ++ (NetworkCall.flush now).posting?.toList = sent :=
              List.append_nil sent
            obtain ⟨log₁, h₁, gone₁, hflushed⟩ := watch_flush htraced hbefore now
            rw [hnone]
            exact ⟨log₁, h₁, gone₁, _, hflushed⟩
      obtain ⟨log₁, h₁, gone₁, waiting₁, hwatch, hkept, htraced₁⟩ := hstep
      rw [← hkept] at hregular htraced₁
      rw [hsent] at hordered
      obtain ⟨log₂, h₂, gone₂, waiting₂, hrest, hkept₂, htraced₂⟩ :=
        ih hregular htraced₁ hordered
      refine ⟨log₂, h₂, gone₂, waiting₂, ?_, hkept₂.trans hkept, ?_⟩
      · rw [Attempt.forEach, hwatch, Attempt.done_andThen]
        exact hrest
      · rw [hsent, ← hkept]
        exact htraced₂

theorem watch_fresh (hregular : h.settings.Regular) (hfresh : h.delayed = DelayLine.empty)
    {calls : List NetworkCall}
    (hordered : (postings calls).Pairwise fun p q => p.sentAt ≤ q.sentAt) :
    ∃ log after gone waiting,
      Attempt.forEach watch calls ([], h) = .done (log, after) ∧
        after.settings = h.settings ∧
        h.settings.Traced (postings calls) log after.delayed gone waiting := by
  have hstart : h.settings.Traced [] [] h.delayed [] [] := by
    rw [hfresh]
    exact ⟨rfl, rfl, fun _ => rfl, by simp, by simp⟩
  exact watch_run hregular hstart calls hordered

theorem undelayed_regular (hregular : h.settings.Regular) : h.undelayed.settings.Regular :=
  ⟨hregular.lossless, hregular.even⟩

theorem delay_undelayed (h : Hub) (side : Side) : h.undelayed.settings.delay side = 0 := by
  cases side <;> rfl

/-- Whatever the sides send and whenever the line is flushed, what the socket was offered
of each side and then what is held of it is what the side sent, and nothing leaves too
early.  Once a flush finds everything due, the socket has been offered the same of each
side as if there were no delays. -/
theorem latency_only_delays (h : Hub) (hregular : h.settings.Regular)
    (hfresh : h.delayed = DelayLine.empty) (calls : List NetworkCall)
    (hordered : (postings calls).Pairwise fun p q => p.sentAt ≤ q.sentAt) :
    ∃ log after gone waiting,
      Attempt.forEach watch calls ([], h) = .done (log, after) ∧
        h.settings.Traced (postings calls) log after.delayed gone waiting ∧
        ∀ now, (∀ x ∈ after.delayed.held, x.release ≤ now) →
          ∃ late flushed goneLate prompt undelayed gonePrompt,
            watch (log, after) (.flush now) = .done (late, flushed) ∧
              h.settings.Traced (postings calls) late flushed.delayed goneLate [] ∧
              Attempt.forEach watch (calls ++ [.flush now]) ([], h.undelayed) =
                .done (prompt, undelayed) ∧
              h.undelayed.settings.Traced (postings calls) prompt undelayed.delayed
                gonePrompt [] ∧
              ∀ side,
                bySide side (goneLate.map Prod.fst) =
                  bySide side (gonePrompt.map Prod.fst) := by
  obtain ⟨log, after, gone, waiting, hrun, hkept, htraced⟩ :=
    watch_fresh hregular hfresh hordered
  refine ⟨log, after, gone, waiting, hrun, htraced, fun now hdue => ?_⟩
  rw [← hkept] at htraced
  obtain ⟨late, flushed, goneLate, hflush, -, hlate⟩ := watch_flush htraced hordered now
  have hnothing : (waiting.filter fun p => !decide (after.settings.release p ≤ now)) = [] := by
    rw [List.filter_eq_nil_iff]
    intro p hp
    have hheld : after.settings.held p ∈ after.delayed.held := by
      rw [htraced.line]
      exact List.mem_map_of_mem hp
    have hrelease : after.settings.release p ≤ now := hdue _ hheld
    simp [hrelease]
  rw [hnothing, hkept] at hlate
  have hordered₀ : (postings (calls ++ [.flush now])).Pairwise
      fun p q => p.sentAt ≤ q.sentAt := by
    rw [postings_flush]
    exact hordered
  obtain ⟨prompt, undelayed, gonePrompt, waiting₀, hrun₀, -, hprompt⟩ :=
    watch_fresh (undelayed_regular hregular) hfresh hordered₀
  have hempty : waiting₀ = [] := by
    apply List.eq_nil_iff_forall_not_mem.mpr
    intro p hp
    have hpos := hprompt.delayed p hp
    rw [delay_undelayed] at hpos
    exact Nat.lt_irrefl 0 hpos
  rw [hempty, postings_flush] at hprompt
  refine ⟨late, flushed, goneLate, prompt, undelayed, gonePrompt, hflush, hlate, hrun₀,
    hprompt, fun side => ?_⟩
  rw [hlate.bySide_gone, hprompt.bySide_gone]

/-- Two sides with different delays: the later datagram leaves first, the earlier ones of
its peer in their order. -/
theorem latency_only_delays_of_two_sides :
    let home : Endpoint := .v4 ⟨#v[10, 0, 0, 1]⟩ 5000
    let h : Hub :=
      { settings := { qport := 1, clientDelay := 50, serverDelay := 20 }
        socket := .bound home }
    let first : Posting := ⟨.client, ⟨"first".toUTF8, home⟩, 0⟩
    let second : Posting := ⟨.client, ⟨"second".toUTF8, home⟩, milliseconds 10⟩
    let answer : Posting := ⟨.server, ⟨"answer".toUTF8, home⟩, milliseconds 15⟩
    let calls : List NetworkCall :=
      [.send first, .send second, .send answer, .flush (milliseconds 40),
        .flush (milliseconds 60)]
    h.settings.Regular ∧ h.delayed = DelayLine.empty ∧
      (postings calls).Pairwise (fun p q => p.sentAt ≤ q.sentAt) ∧
      ∃ log after gone waiting,
        Attempt.forEach watch calls ([], h) = .done (log, after) ∧
          log = [answer.leaveAt (milliseconds 40), first.leaveAt (milliseconds 60),
            second.leaveAt (milliseconds 60)] ∧
          h.settings.Traced (postings calls) log after.delayed gone waiting := by
  intro home h first second answer calls
  have hregular : h.settings.Regular := Settings.regular_of_zero rfl rfl
  have hordered : (postings calls).Pairwise fun p q => p.sentAt ≤ q.sentAt := by
    have hpostings : postings calls = [first, second, answer] := rfl
    rw [hpostings]
    simp [first, second, answer, milliseconds]
  obtain ⟨log, after, gone, waiting, hrun, htraced, -⟩ :=
    h.latency_only_delays hregular rfl calls hordered
  have hlog : (Attempt.forEach watch calls ([], h)).reached.1 =
      [answer.leaveAt (milliseconds 40), first.leaveAt (milliseconds 60),
        second.leaveAt (milliseconds 60)] := by
    decide +kernel
  rw [hrun] at hlog
  exact ⟨hregular, rfl, hordered, log, after, gone, waiting, hrun, hlog, htraced⟩

end Hub
end DatagramLink

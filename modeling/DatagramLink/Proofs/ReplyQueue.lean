import Mathlib.Data.List.Induction
import DatagramLink.Proofs.CanonicalMessages
import DatagramLink.Proofs.ChannelSafety
import DatagramLink.Proofs.EchoExchange
import DatagramLink.Proofs.ReceiptCases

/-!
# Reply queues

A server answers a probe by queueing its echo, and a queue that breaks a limit gives up its
oldest messages.  `Outbox` does the same with a count of the queued bytes on the side: every
push adds to it and every pop takes from it, in a machine word.  As long as the count fits,
it is the sum of the sizes and the queue is the one that is trimmed by sums.

An echo is as long as a probe without trailing bytes, and a message that is put together is
never longer than the largest one.  So what is queued can be sent, and a receiver puts it
together again.
-/

namespace DatagramLink

/-! ## Echoes -/

namespace Message

/-- What a server has to say to a complete message: the echo of a probe. -/
def replyTo? (message : ByteArray) : Option ByteArray :=
  match decode message with
  | .ok (.probe id timestamp payload) => some (encode (.echo id timestamp payload))
  | _ => none

theorem size_of_decode_probe {message : ByteArray} {id : UInt32} {timestamp : UInt64}
    {payload : ByteArray} (hdecode : decode message = .ok (.probe id timestamp payload)) :
    24 + payload.size ≤ message.size := by
  obtain ⟨-, rest, rfl⟩ := eq_append_of_decode hdecode
  rw [ByteArray.size_append, size_encode_probe]
  exact Nat.le_add_right _ _

/-- A reply is the echo of a probe, reads as such, and is not longer than the probe. -/
theorem replyTo?_spec {message reply : ByteArray} (hmemory : message.size < 2 ^ 64)
    (hreply : replyTo? message = some reply) :
    ∃ id timestamp payload, decode message = .ok (.probe id timestamp payload) ∧
      decode reply = .ok (.echo id timestamp payload) ∧ reply.size ≤ message.size := by
  unfold replyTo? at hreply
  split at hreply
  · next id timestamp payload hdecode =>
      cases hreply
      have hsize := size_of_decode_probe hdecode
      refine ⟨id, timestamp, payload, hdecode, decode_encode _ ?_, ?_⟩
      · change payload.size < 2 ^ 64
        omega
      · rw [size_encode_echo]
        exact hsize
  · cases hreply

end Message

/-! ## Delivered messages -/

/-- A message that came in one piece is part of its datagram, and one that was put together
is within the largest message. -/
theorem Channel.size_le_of_delivered (c : Channel) (source : Address) (datagram : ByteArray)
    {message : ByteArray}
    (hdelivered : (c.receive source (.ofBytes datagram)).1.message? = some message) :
    message.size ≤ max datagram.size maxMessageSize := by
  obtain ⟨verdict, message?, after, -, hmessage, -, hreceives⟩ := c.receives source datagram
  rw [hmessage] at hdelivered
  subst hdelivered
  cases hreceives with
  | @whole header payload htakes hwhole =>
      have hbytes := congrArg ByteArray.size htakes.bytes
      rw [ByteArray.size_append] at hbytes
      omega
  | @completed header payload f htakes hfragment hlegal hcontinues hlast =>
      have htotal := hcontinues.2
      rw [ByteArray.size_append, ByteArray.size_extract]
      omega

/-! ## Trimming -/

namespace MessageQueue

/-- Whether a queue may stay as it is. -/
def Permitted (queue : List ByteArray) : Prop :=
  queue.length = 1 ∨ (queue.length ≤ maxQueuedMessages ∧ totalSize queue ≤ maxQueuedBytes)

theorem totalSize_eq_sum (queue : List ByteArray) :
    totalSize queue = (queue.map ByteArray.size).sum := by
  induction queue with
  | nil => rfl
  | cons message queue ih => rw [totalSize_cons, ih, List.map_cons, List.sum_cons]

theorem totalSize_snoc (queue : List ByteArray) (message : ByteArray) :
    totalSize (queue ++ [message]) = totalSize queue + message.size := by
  simp [totalSize_eq_sum]

theorem permitted_iff {queue : List ByteArray} (hsome : queue ≠ []) :
    Permitted queue ↔ ¬ Overfull queue := by
  have hlength := List.length_pos_iff.mpr hsome
  unfold Permitted Overfull
  omega

theorem trim_suffix (queue : List ByteArray) : (trim queue).2 <:+ queue := by
  induction queue with
  | nil => exact List.suffix_refl _
  | cons oldest rest ih =>
      unfold trim
      split
      · exact ih.trans (List.suffix_cons _ _)
      · exact List.suffix_refl _

theorem trim_permitted (queue : List ByteArray) : Permitted (trim queue).2 := by
  induction queue with
  | nil => exact Or.inr ⟨Nat.zero_le _, Nat.zero_le _⟩
  | cons oldest rest ih =>
      unfold trim
      split
      · exact ih
      · next hfits => exact (permitted_iff (by simp)).mpr hfits

/-- No permitted end of a queue is longer than what trimming leaves. -/
theorem trim_longest {queue other : List ByteArray} (hother : other <:+ queue)
    (hpermitted : Permitted other) :
    other <:+ (trim queue).2 := by
  induction queue with
  | nil => exact hother
  | cons oldest rest ih =>
      unfold trim
      split
      · next hover =>
          rcases List.suffix_cons_iff.mp hother with rfl | hlater
          · exact absurd hover ((permitted_iff (by simp)).mp hpermitted)
          · exact ih hlater
      · exact hother

theorem Permitted.of_suffix {queue rest : List ByteArray} (hpermitted : Permitted queue)
    (hsuffix : rest <:+ queue) :
    Permitted rest := by
  have hlength := hsuffix.length_le
  have htotal := totalSize_le_of_sublist hsuffix.sublist
  rcases hpermitted with hone | ⟨hcount, hbytes⟩
  · rcases Nat.eq_zero_or_pos rest.length with hnone | hsome
    · rw [List.eq_nil_of_length_eq_zero hnone]
      exact Or.inr ⟨Nat.zero_le _, Nat.zero_le _⟩
    · exact Or.inl (by omega)
  · exact Or.inr ⟨hlength.trans hcount, htotal.trans hbytes⟩

/-- A queue that may stay has room for one more message in its count, and messages that are
not too large for a channel keep to both limits. -/
theorem Permitted.within {queue : List ByteArray} (hpermitted : Permitted queue) {limit : Nat}
    (hsizes : ∀ message ∈ queue, message.size ≤ limit) :
    queue.length ≤ maxQueuedMessages ∧ totalSize queue ≤ max maxQueuedBytes limit := by
  rcases hpermitted with hone | ⟨hcount, hbytes⟩
  · obtain ⟨message, rfl⟩ := List.length_eq_one_iff.mp hone
    have hsize := hsizes message List.mem_cons_self
    refine ⟨Nat.le_add_left 1 63, ?_⟩
    change message.size + 0 ≤ _
    omega
  · exact ⟨hcount, hbytes.trans (Nat.le_max_left _ _)⟩

end MessageQueue

/-! ## Counted queues -/

/-- A queue and the number of its bytes. -/
structure Outbox where
  messages : List ByteArray := []
  bytes : Nat := 0

/-- What happens to a client's queue: a complete message of the client, or the channel takes
the oldest message. -/
inductive QueueEvent where
  | delivered (message : ByteArray)
  | taken

namespace Outbox

/-- Takes the oldest message, unless the count would fall below zero. -/
def pop? : Outbox → Option Outbox
  | ⟨[], bytes⟩ => some ⟨[], bytes⟩
  | ⟨oldest :: rest, bytes⟩ =>
      if oldest.size ≤ bytes then some ⟨rest, bytes - oldest.size⟩ else none

/-- Pops while there is more than one message and the length or the count breaks a limit. -/
def shrink? : List ByteArray → Nat → Option Outbox
  | [], bytes => some ⟨[], bytes⟩
  | oldest :: rest, bytes =>
      if 1 < (oldest :: rest).length ∧
          (maxQueuedMessages < (oldest :: rest).length ∨ maxQueuedBytes < bytes) then
        if oldest.size ≤ bytes then shrink? rest (bytes - oldest.size) else none
      else
        some ⟨oldest :: rest, bytes⟩

/-- Queues a message, unless the count would not fit into 64 bits. -/
def push? (o : Outbox) (message : ByteArray) : Option Outbox :=
  if o.bytes + message.size < 2 ^ 64 then
    shrink? (o.messages ++ [message]) (o.bytes + message.size)
  else
    none

/-- What an event puts into the queue. -/
def queued? : QueueEvent → Option ByteArray
  | .delivered message => Message.replyTo? message
  | .taken => none

def step? (o : Outbox) : QueueEvent → Option Outbox
  | .delivered message =>
      match Message.replyTo? message with
      | none => some o
      | some reply => o.push? reply
  | .taken => o.pop?

/-- A new client's queue after some events; nothing where the count went wrong. -/
def run? (events : List QueueEvent) : Option Outbox := events.foldlM step? {}

/-- A queue with the right count. -/
def ofQueue (queue : List ByteArray) : Outbox := ⟨queue, MessageQueue.totalSize queue⟩

theorem run?_append (events more : List QueueEvent) :
    run? (events ++ more) = (run? events).bind fun o => more.foldlM step? o :=
  List.foldlM_append

theorem run?_snoc (events : List QueueEvent) (event : QueueEvent) :
    run? (events ++ [event]) = (run? events).bind (step? · event) := by
  rw [run?_append]
  refine congrArg (run? events).bind (funext fun o => ?_)
  rw [List.foldlM_cons]
  cases o.step? event <;> rfl

theorem pop?_ofQueue (queue : List ByteArray) :
    (ofQueue queue).pop? = some (ofQueue queue.tail) := by
  cases queue with
  | nil => rfl
  | cons oldest rest =>
      have hsize := MessageQueue.totalSize_cons oldest rest
      rw [ofQueue, pop?, if_pos (by omega), hsize, Nat.add_sub_cancel_left]
      rfl

theorem shrink?_eq (queue : List ByteArray) :
    shrink? queue (MessageQueue.totalSize queue) = some (ofQueue (MessageQueue.trim queue).2) := by
  induction queue with
  | nil => rfl
  | cons oldest rest ih =>
      have hsize := MessageQueue.totalSize_cons oldest rest
      have hcount : MessageQueue.Overfull (oldest :: rest) ↔
          1 < (oldest :: rest).length ∧ (maxQueuedMessages < (oldest :: rest).length ∨
            maxQueuedBytes < MessageQueue.totalSize (oldest :: rest)) := Iff.rfl
      unfold shrink? MessageQueue.trim
      by_cases hover : MessageQueue.Overfull (oldest :: rest)
      · rw [if_pos (hcount.mp hover), if_pos hover, if_pos (by omega), hsize,
          Nat.add_sub_cancel_left, ih]
      · rw [if_neg fun hover' => hover (hcount.mpr hover'), if_neg hover]
        rfl

theorem push?_ofQueue {queue : List ByteArray} {message : ByteArray}
    (hfits : MessageQueue.totalSize queue + message.size < 2 ^ 64) :
    (ofQueue queue).push? message =
      some (ofQueue (MessageQueue.trim (queue ++ [message])).2) := by
  rw [← shrink?_eq, MessageQueue.totalSize_snoc]
  exact if_pos hfits

theorem sublist_of_pop? {o after : Outbox} (hpop : o.pop? = some after) :
    after.messages.Sublist o.messages := by
  unfold pop? at hpop
  split at hpop
  · cases hpop
    exact List.Sublist.refl _
  · split at hpop
    · cases hpop
      exact List.sublist_cons_self _ _
    · cases hpop

theorem sublist_of_shrink? {queue : List ByteArray} {bytes : Nat} {after : Outbox}
    (hshrink : shrink? queue bytes = some after) :
    after.messages.Sublist queue := by
  induction queue generalizing bytes with
  | nil =>
      cases hshrink
      exact List.Sublist.refl _
  | cons oldest rest ih =>
      unfold shrink? at hshrink
      split at hshrink
      · split at hshrink
        · exact (ih hshrink).trans (List.sublist_cons_self _ _)
        · cases hshrink
      · cases hshrink
        exact List.Sublist.refl _

/-- What waits was put into the queue, in this order, each message for a delivery of its
own. -/
theorem sublist_of_run? {events : List QueueEvent} {o : Outbox}
    (hrun : run? events = some o) :
    o.messages.Sublist (events.filterMap queued?) := by
  induction events using List.reverseRecOn generalizing o with
  | nil =>
      cases hrun
      exact List.Sublist.refl _
  | append_singleton events event ih =>
      rw [run?_snoc, Option.bind_eq_some_iff] at hrun
      obtain ⟨before, hbefore, hstep⟩ := hrun
      have hsub := ih hbefore
      rw [List.filterMap_append]
      cases event with
      | taken =>
          have hpop : before.pop? = some o := hstep
          have hnone : [QueueEvent.taken].filterMap queued? = [] := rfl
          rw [hnone, List.append_nil]
          exact (sublist_of_pop? hpop).trans hsub
      | delivered message =>
          cases hreply : Message.replyTo? message with
          | none =>
              have hsame : before = o := by simpa [step?, hreply] using hstep
              subst hsame
              simpa [queued?, hreply] using hsub
          | some reply =>
              have hpush : before.push? reply = some o := by
                simpa [step?, hreply] using hstep
              unfold push? at hpush
              split at hpush
              · simp only [queued?, hreply, List.filterMap_cons, List.filterMap_nil]
                exact (sublist_of_shrink? hpush).trans (hsub.append (List.Sublist.refl _))
              · cases hpush

/-- A share takes messages from the front. -/
theorem takes_of_suffix {queue rest : List ByteArray} (hsuffix : rest <:+ queue) :
    (List.replicate (queue.length - rest.length) QueueEvent.taken).foldlM step?
      (ofQueue queue) = some (ofQueue rest) := by
  obtain ⟨sent, rfl⟩ := hsuffix
  rw [List.length_append, Nat.add_sub_cancel]
  induction sent with
  | nil => rfl
  | cons oldest sent ih =>
      rw [List.length_cons, List.replicate_succ, List.foldlM_cons]
      simp only [step?, pop?_ofQueue, List.cons_append, List.tail_cons]
      exact ih

end Outbox

/-! ## Delivery -/

namespace Channel

/-- What comes in order is delivered completely. -/
theorem Expects.takeIn {c : Channel} {packets : List Packet} (hexpects : c.Expects packets) :
    (c.takeIn c.remote (packets.map Packet.bytes)).1 =
      packets.filterMap Packet.completes := by
  induction packets generalizing c with
  | nil => rfl
  | cons p rest ih =>
      obtain ⟨receipt, incoming, hreceive, hmessage, -, hrest⟩ := hexpects.receive
      have hlater := ih hrest
      simp only [List.map_cons, Channel.takeIn, hreceive, hmessage]
      rw [hlater]
      cases hcompletes : p.completes <;> simp [hcompletes]

/-- Messages of no more than the largest size can always be sent, and their receiver puts
them together again. -/
theorem Paired.takeIn_all {sender receiver : Channel} {last : UInt32}
    (hpaired : Paired sender receiver last) {messages : List ByteArray}
    (hsizes : ∀ message ∈ messages, message.size ≤ maxMessageSize) :
    (∃ sent after, SendsAll sender messages sent after) ∧
      ∀ sent after, SendsAll sender messages sent after →
        (receiver.takeIn receiver.remote (sent.map Dispatch.bytes)).1 = messages := by
  refine ⟨exists_sendsAll hpaired.aligned hpaired.sent messages, ?_⟩
  intro sent after hsends
  obtain ⟨hsending, hidle⟩ := hsends.sending hpaired.aligned hpaired.sent
  rw [hsending.bytes_of_done hidle, (hpaired.expects hsizes).takeIn,
    pending_of_idle hpaired.sent, Packet.completes_stream]

end Channel
end DatagramLink

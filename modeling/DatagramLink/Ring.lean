/-!
# Loopback rings

A ring of sixteen slots that one side of a process writes and the other side reads.  A writer never
waits: once it is more than sixteen datagrams ahead, it overwrites the oldest unread ones, and the
reader skips past them.  Seen from outside (`unread`), a ring is a queue that forgets its oldest
entries.
-/

namespace DatagramLink

def ringSize : Nat := 16

/-- Datagrams on their way to one side of a process.  `sent` and `taken` count all writes and reads;
datagram number `n` lies in slot `n % ringSize`. -/
structure Ring where
  slots : Vector ByteArray ringSize
  sent : Nat
  taken : Nat

namespace Ring

/-- A ring that nothing was written to. -/
def empty : Ring := ⟨Vector.replicate ringSize ByteArray.empty, 0, 0⟩

theorem slot_lt (n : Nat) : n % ringSize < ringSize := Nat.mod_lt _ (by decide)

/-- The datagram in the slot of number `n`. -/
def slot (r : Ring) (n : Nat) : ByteArray := r.slots.get ⟨n % ringSize, slot_lt n⟩

/-- Writes a datagram over whatever its slot held. -/
def push (r : Ring) (datagram : ByteArray) : Ring :=
  { r with slots := r.slots.set (r.sent % ringSize) datagram (slot_lt r.sent), sent := r.sent + 1 }

/-- Number of the oldest datagram that is neither read nor overwritten. -/
def oldest (r : Ring) : Nat := max r.taken (r.sent - ringSize)

/-- Takes the oldest datagram that is left, and empties its slot. -/
def pop (r : Ring) : Option ByteArray × Ring :=
  if r.oldest < r.sent then
    (some (r.slot r.oldest),
      { r with
        slots := r.slots.set (r.oldest % ringSize) ByteArray.empty (slot_lt r.oldest)
        taken := r.oldest + 1 })
  else
    (none, r)

def pops (r : Ring) : Nat → List (Option ByteArray) × Ring
  | 0 => ([], r)
  | count + 1 =>
    match r.pop with
    | (found, r) =>
      match r.pops count with
      | (rest, r) => (found :: rest, r)

/-- Number of datagrams that can still be read. -/
def length (r : Ring) : Nat := r.sent - r.oldest

/-- The datagrams that can still be read, oldest first. -/
def unread (r : Ring) : List ByteArray :=
  (List.range' r.oldest r.length).map r.slot

/-- A pop that finds a datagram leaves one less. -/
theorem length_pop {r rest : Ring} {datagram : ByteArray} (h : r.pop = (some datagram, rest)) :
    rest.length + 1 = r.length := by
  unfold pop at h
  split at h
  · next hlt =>
    cases h
    unfold length oldest at *
    simp only
    omega
  · cases h

/-- A pop that finds nothing changes nothing. -/
theorem eq_of_pop_eq_none {r rest : Ring} (h : r.pop = (none, rest)) : rest = r := by
  unfold pop at h
  split at h
  · cases h
  · cases h
    rfl

end Ring
end DatagramLink

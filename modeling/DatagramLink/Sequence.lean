/-!
# Circular sequence numbers

Messages are numbered by 31-bit words in a circle.  Two words are never sent: `0`, which stands
for "nothing accepted yet", and `0x7FFFFFFF`, which with the fragment bit set would spell the
marker of connectionless datagrams.
-/

namespace DatagramLink
namespace Sequence

/-- Set in the leading word of every fragment of a split message. -/
def fragmentBit : UInt32 := 0x80000000

/-- The bits that hold the sequence number itself. -/
def mask : UInt32 := 0x7FFFFFFF

/-- The number of the first message of a channel. -/
def first : UInt32 := 1

def last : UInt32 := 0x7FFFFFFE

/-- Half of the circle: distances below it point forward. -/
def halfRange : UInt32 := 0x40000000

/-- The number after `sequence`; the last one is followed by the first. -/
def next (sequence : UInt32) : UInt32 :=
  if last ≤ sequence then first else sequence + 1

/-- Whether `a` was sent after `b`: the way forward from `b` to `a` is shorter than half the
circle. -/
def newer (a b : UInt32) : Bool :=
  let distance := (a - b) &&& mask
  distance != 0 && distance < halfRange

/-- How many numbers were skipped on the way from `older` to `later`.  A way through the end of the
circle passes the two words that are never sent, and these are not counted. -/
def gap (later older : UInt32) : Nat :=
  let distance := ((later - older) &&& mask).toNat
  (if later < older then distance - 2 else distance) - 1

def Sendable (sequence : UInt32) : Prop :=
  first ≤ sequence ∧ sequence ≤ last

instance (sequence : UInt32) : Decidable (Sendable sequence) :=
  inferInstanceAs (Decidable (_ ∧ _))

/-- `steps` applications of `next`. -/
def advance : Nat → UInt32 → UInt32
  | 0, sequence => sequence
  | steps + 1, sequence => next (advance steps sequence)

end Sequence
end DatagramLink

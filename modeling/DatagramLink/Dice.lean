/-!
# Dice

The random numbers of simulated loss and jitter, as a sequence that is given from outside.  Laws
hold for every sequence; a program takes the one of a seed.
-/

namespace DatagramLink

/-- A sequence of random words and how many of them were used. -/
structure Dice where
  roll : Nat → UInt64
  used : Nat := 0

namespace Dice

/-- Word number `index` of the sequence of a seed: the counter mixed until every bit of it has moved
every other one. -/
def mix (seed : UInt64) (index : Nat) : UInt64 :=
  let z := seed + (UInt64.ofNat index + 1) * 0x9E3779B97F4A7C15
  let z := (z ^^^ (z >>> 30)) * 0xBF58476D1CE4E5B9
  let z := (z ^^^ (z >>> 27)) * 0x94D049BB133111EB
  z ^^^ (z >>> 31)

def ofSeed (seed : UInt64) : Dice := { roll := mix seed }

/-- The dice of a hub that was given no seed. -/
def plain : Dice := ofSeed 0

def next (d : Dice) : UInt64 × Dice := (d.roll d.used, { d with used := d.used + 1 })

/-- A percentage, from zero up to but not including one hundred. -/
def percent (word : UInt64) : Float32 :=
  (word >>> 40).toFloat32 * (1 / 16777216) * 100

end Dice
end DatagramLink

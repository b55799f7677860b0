/-!
# Single-precision numbers

A finite single-precision number is a whole number times a power of two.
-/

namespace DatagramLink

/-- The number `± mantissa · 2 ^ exponent`. -/
structure Binary32 where
  negative : Bool
  mantissa : Nat
  exponent : Int
  deriving DecidableEq, Repr

namespace Binary32

/-- The first mantissa with its leading bit set, which is not stored. -/
def leadingBit : Nat := 0x800000

/-- The parts of a number, from its bits; infinities and what is no number have none. -/
def ofBits? (bits : Nat) : Option Binary32 :=
  let exponent := bits / leadingBit % 256
  let fraction := bits % leadingBit
  if exponent = 255 then
    none
  else
    some
      { negative := 0x80000000 ≤ bits
        mantissa := if exponent = 0 then fraction else fraction + leadingBit
        exponent := (max exponent 1 : Nat) - 150 }

def ofFloat32? (x : Float32) : Option Binary32 := ofBits? x.toBits.toNat

end Binary32
end DatagramLink

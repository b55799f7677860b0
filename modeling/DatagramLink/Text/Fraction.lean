import DatagramLink.Text.Decimal

/-!
# Decimal fractions in text

Fractions as options spell them: an optional sign, then digits with at most one point among them and
an optional power of ten, or a name for infinity or for what is no number.
-/

namespace DatagramLink
namespace Text

/-- A fraction `digits · 10 ^ exponent`, without its sign. -/
structure Fraction where
  digits : Nat
  exponent : Int
  deriving DecidableEq, Repr

namespace Fraction

/-- The nearest single-precision number.  Exponents beyond every such number are not computed
with. -/
def toFloat32 (f : Fraction) : Float32 :=
  let magnitude := f.exponent + (Nat.toDigits 10 f.digits).length
  if f.digits = 0 ∨ magnitude < -60 then
    0
  else if 60 < magnitude then
    1 / 0
  else
    Float32.ofScientific f.digits (f.exponent < 0) f.exponent.natAbs

/-- The power of ten that follows a fraction's digits; nothing stands for zero. -/
def power? : List Char → Option Int
  | [] => some 0
  | c :: rest =>
    if c == 'e' || c == 'E' then
      match rest with
      | '-' :: digits => (digits? digits).map fun n => -(n : Int)
      | '+' :: digits => (digits? digits).map Int.ofNat
      | digits => (digits? digits).map Int.ofNat
    else
      none

/-- Whether a character is a decimal digit. -/
def isDigit (c : Char) : Bool := '0' ≤ c && c ≤ '9'

/-- What follows the point of a fraction, and what follows that. -/
def decimals : List Char → List Char × List Char
  | '.' :: rest => (rest.takeWhile isDigit, rest.dropWhile isDigit)
  | rest => ([], rest)

/-- Reads a fraction without its sign.  A digit has to be on one side of the point. -/
def parse? (chars : List Char) : Option Fraction :=
  match decimals (chars.dropWhile isDigit) with
  | (fractional, rest) =>
    match digits? (chars.takeWhile isDigit ++ fractional), power? rest with
    | some digits, some power => some ⟨digits, power - fractional.length⟩
    | _, _ => none

end Fraction

/-- Reads a single-precision number without its sign. -/
def magnitude? (chars : List Char) : Option Float32 :=
  match String.ofList (chars.map Char.toLower) with
  | "inf" | "infinity" => some (1 / 0)
  | "nan" => some (0 / 0)
  | _ => (Fraction.parse? chars).map Fraction.toFloat32

def float32? (text : String) : Option Float32 :=
  match text.toList with
  | '-' :: rest => (magnitude? rest).map (-·)
  | '+' :: rest => magnitude? rest
  | chars => magnitude? chars

end Text
end DatagramLink

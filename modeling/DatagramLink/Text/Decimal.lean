/-!
# Decimal numerals in text

Whole numbers as commands, options and addresses spell them: ASCII digits without separators,
leading zeros allowed, and an upper limit.
-/

namespace DatagramLink
namespace Text

def maxUnsigned64 : Nat := 0xFFFFFFFFFFFFFFFF

/-- The largest signed number of 64 bits. -/
def maxSigned64 : Nat := 0x7FFFFFFFFFFFFFFF

/-- The value of a character as a digit below `base` (at most 16); letters count in either
case. -/
def digitValue? (base : Nat) (c : Char) : Option Nat :=
  let value? :=
    if '0' ≤ c && c ≤ '9' then some (c.toNat - '0'.toNat)
    else if 'a' ≤ c && c ≤ 'f' then some (c.toNat - 'a'.toNat + 10)
    else if 'A' ≤ c && c ≤ 'F' then some (c.toNat - 'A'.toNat + 10)
    else none
  value?.filter (· < base)

/-- The number that a list of digits spells, on top of what was read before them. -/
def digitsFrom? (base : Nat) : Nat → List Char → Option Nat
  | value, [] => some value
  | value, c :: rest =>
    match digitValue? base c with
    | some digit => digitsFrom? base (base * value + digit) rest
    | none => none

/-- The number that a nonempty list of decimal digits spells. -/
def digits? (chars : List Char) : Option Nat :=
  if chars.isEmpty then none else digitsFrom? 10 0 chars

/-- A whole number of at most `limit`, with an optional plus sign in front. -/
def unsigned? (limit : Nat) (text : String) : Option Nat :=
  let digits := match text.toList with
    | '+' :: rest => rest
    | chars => chars
  (digits? digits).filter (· ≤ limit)

/-- A whole number between `least` and `most`, with an optional sign in front. -/
def signed? (least most : Int) (text : String) : Option Int :=
  let value? := match text.toList with
    | '-' :: rest => (digits? rest).map fun n => -(n : Int)
    | '+' :: rest => (digits? rest).map Int.ofNat
    | chars => (digits? chars).map Int.ofNat
  value?.filter fun value => least ≤ value && value ≤ most

end Text
end DatagramLink

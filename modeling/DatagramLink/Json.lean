import DatagramLink.Text.Decimal

/-!
# JSON values

Settings and addresses have a JSON form.  Numbers keep the way they were written, since a whole
number and a decimal fraction of the same value are different things to a reader of settings.
-/

namespace DatagramLink

/-- A number as JSON writes it: `± mantissa · 10 ^ exponent`. -/
structure Numeral where
  negative : Bool
  mantissa : Nat
  exponent : Int
  /-- Written without fraction and exponent. -/
  whole : Bool
  deriving DecidableEq, Repr, Inhabited

namespace Numeral

def ofNat (n : Nat) : Numeral := ⟨false, n, 0, true⟩

/-- The whole number between `-2 ^ 63` and `2 ^ 64` that the numeral writes.  A larger one, and
minus zero, only have a value as fractions. -/
def toInt? (n : Numeral) : Option Int :=
  if !n.whole || (n.negative && n.mantissa == 0) then
    none
  else
    let value : Int := if n.negative then -(n.mantissa : Int) else n.mantissa
    if -Text.maxSigned64 - 1 ≤ value ∧ value ≤ Text.maxUnsigned64 then some value else none

/-- The whole number from zero to `limit` that the numeral writes. -/
def toNat? (limit : Nat) (n : Numeral) : Option Nat :=
  match n.toInt? with
  | some value => if 0 ≤ value ∧ value ≤ limit then some value.toNat else none
  | none => none

def toFloat (n : Numeral) : Float :=
  let size := Float.ofScientific n.mantissa (n.exponent < 0) n.exponent.natAbs
  if n.negative then -size else size

/-- The nearest single-precision number; a fraction is rounded to double precision first. -/
def toFloat32 (n : Numeral) : Float32 :=
  match n.toInt? with
  | some value =>
    let size := Float32.ofNat value.natAbs
    if value < 0 then -size else size
  | none => n.toFloat.toFloat32

end Numeral

/-- A JSON value.  The members of an object are in the order of the text. -/
inductive Json where
  | null
  | bool (value : Bool)
  | number (value : Numeral)
  | string (value : String)
  | array (values : List Json)
  | object (members : List (String × Json))
  deriving Inhabited

namespace Json

def ofNat (n : Nat) : Json := .number (.ofNat n)

/-- The member of an object with this name. -/
def member? (name : String) : Json → Option Json
  | .object members => (members.find? (·.1 == name)).map (·.2)
  | _ => none

def isNull : Json → Bool
  | .null => true
  | _ => false

end Json
end DatagramLink

import DatagramLink.Json
import DatagramLink.Text.Decimal

/-!
# Reading JSON

A reader of one value from a text.  Every value and every step from one element to the next uses up
a unit of depth, and a text has no more of them than characters.
-/

namespace DatagramLink
namespace Json

/-- The characters that may stand between tokens. -/
def isSpace (c : Char) : Bool := c == ' ' || c == '\t' || c == '\n' || c == '\r'

def skipSpace (chars : List Char) : List Char := chars.dropWhile isSpace

def codeUnit? (a b c d : Char) : Option Nat :=
  Text.digitsFrom? 16 0 [a, b, c, d]

/-- The character that a one-letter escape stands for. -/
def escaped? : Char → Option Char
  | '"' => some '"'
  | '\\' => some '\\'
  | '/' => some '/'
  | 'b' => some '\x08'
  | 'f' => some '\x0c'
  | 'n' => some '\n'
  | 'r' => some '\r'
  | 't' => some '\t'
  | _ => none

/-- The rest of a string after its opening quote, on top of the characters read so far (latest
first). -/
def stringFrom (done : List Char) : List Char → Option (String × List Char)
  | '"' :: rest => some (String.ofList done.reverse, rest)
  | '\\' :: 'u' :: a :: b :: c :: d :: rest =>
    match codeUnit? a b c d with
    | none => none
    | some unit =>
      if 0xD800 ≤ unit && unit < 0xDC00 then
        match rest with
        | '\\' :: 'u' :: e :: f :: g :: h :: rest =>
          match codeUnit? e f g h with
          | some low =>
            if 0xDC00 ≤ low && low < 0xE000 then
              let code := 0x10000 + 0x400 * (unit - 0xD800) + (low - 0xDC00)
              stringFrom (Char.ofNat code :: done) rest
            else
              none
          | none => none
        | _ => none
      else if 0xDC00 ≤ unit && unit < 0xE000 then
        none
      else
        stringFrom (Char.ofNat unit :: done) rest
  | '\\' :: c :: rest =>
    match escaped? c with
    | some c => stringFrom (c :: done) rest
    | none => none
  | c :: rest => if c.toNat < 0x20 then none else stringFrom (c :: done) rest
  | [] => none

/-- The exponent behind a number, if there is one. -/
def exponent? (chars : List Char) : Option (Int × List Char) :=
  match chars with
  | e :: rest =>
    if e == 'e' || e == 'E' then
      let (negative, rest) := match rest with
        | '-' :: rest => (true, rest)
        | '+' :: rest => (false, rest)
        | rest => (false, rest)
      match Text.digits? (rest.takeWhile Char.isDigit) with
      | some size => some (if negative then -(size : Int) else size, rest.dropWhile Char.isDigit)
      | none => none
    else
      none
  | [] => none

def numeral? (chars : List Char) : Option (Numeral × List Char) :=
  let (negative, chars) := match chars with
    | '-' :: rest => (true, rest)
    | chars => (false, chars)
  let front := chars.takeWhile Char.isDigit
  let chars := chars.dropWhile Char.isDigit
  let (fraction, chars) := match chars with
    | '.' :: rest => (rest.takeWhile Char.isDigit, rest.dropWhile Char.isDigit)
    | chars => ([], chars)
  match Text.digits? (front ++ fraction) with
  | none => none
  | some mantissa =>
    let shift : Int := -(fraction.length : Int)
    match exponent? chars with
    | some (size, rest) => some (⟨negative, mantissa, size + shift, false⟩, rest)
    | none => some (⟨negative, mantissa, shift, fraction.isEmpty⟩, chars)

/-- The members of an object, each name once with its last value. -/
def distinct (members : List (String × Json)) : List (String × Json) :=
  members.foldr (fun m done => if done.any (·.1 == m.1) then done else m :: done) []

mutual

/-- A value of at most the given depth. -/
def value? : Nat → List Char → Option (Json × List Char)
  | 0, _ => none
  | depth + 1, chars =>
    match skipSpace chars with
    | 'n' :: 'u' :: 'l' :: 'l' :: rest => some (.null, rest)
    | 't' :: 'r' :: 'u' :: 'e' :: rest => some (.bool true, rest)
    | 'f' :: 'a' :: 'l' :: 's' :: 'e' :: rest => some (.bool false, rest)
    | '"' :: rest => (stringFrom [] rest).map fun (text, rest) => (.string text, rest)
    | '[' :: rest =>
      match skipSpace rest with
      | ']' :: rest => some (.array [], rest)
      | rest => (values? depth rest).map fun (values, rest) => (.array values, rest)
    | '\x7b' :: rest =>
      match skipSpace rest with
      | '\x7d' :: rest => some (.object [], rest)
      | rest => (members? depth rest).map fun (members, rest) => (.object (distinct members), rest)
    | rest => (numeral? rest).map fun (n, rest) => (.number n, rest)

/-- The values of an array up to its closing bracket. -/
def values? : Nat → List Char → Option (List Json × List Char)
  | 0, _ => none
  | depth + 1, chars =>
    match value? depth chars with
    | none => none
    | some (value, rest) =>
      match skipSpace rest with
      | ',' :: rest => (values? depth rest).map fun (values, rest) => (value :: values, rest)
      | ']' :: rest => some ([value], rest)
      | _ => none

/-- The members of an object up to its closing brace. -/
def members? : Nat → List Char → Option (List (String × Json) × List Char)
  | 0, _ => none
  | depth + 1, chars =>
    match skipSpace chars with
    | '"' :: rest =>
      match stringFrom [] rest with
      | none => none
      | some (name, rest) =>
        match skipSpace rest with
        | ':' :: rest =>
          match value? depth rest with
          | none => none
          | some (value, rest) =>
            match skipSpace rest with
            | ',' :: rest =>
              (members? depth rest).map fun (members, rest) => ((name, value) :: members, rest)
            | '\x7d' :: rest => some ([(name, value)], rest)
            | _ => none
        | _ => none
    | _ => none

end

/-- The value that a whole text writes. -/
def parse? (text : String) : Option Json :=
  let chars := text.toList
  match value? (chars.length + 1) chars with
  | some (value, rest) => if (skipSpace rest).isEmpty then some value else none
  | none => none

end Json
end DatagramLink

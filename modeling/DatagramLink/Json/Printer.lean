import DatagramLink.Json

/-!
# Printing JSON

One line without blanks.  Text outside ASCII stays as it is; quotes, backslashes and control
characters are escaped.
-/

namespace DatagramLink
namespace Json

def renderChar (c : Char) : String :=
  if c = '"' then "\\\""
  else if c = '\\' then "\\\\"
  else if c.toNat < 0x20 then
    let digits := Nat.toDigits 16 c.toNat
    "\\u" ++ String.ofList (List.replicate (4 - digits.length) '0' ++ digits)
  else
    c.toString

def renderString (text : String) : String :=
  text.foldl (fun done c => done ++ renderChar c) "\"" ++ "\""

/-- A number with its sign, and an exponent where it needs one. -/
def renderNumeral (n : Numeral) : String :=
  let sign := if n.negative then "-" else ""
  let exponent := if n.exponent = 0 then "" else s!"e{n.exponent}"
  s!"{sign}{n.mantissa}{exponent}"

mutual

/-- The text of a value behind what was printed before it. -/
def renderAfter (done : String) : Json → String
  | .null => done ++ "null"
  | .bool true => done ++ "true"
  | .bool false => done ++ "false"
  | .number n => done ++ renderNumeral n
  | .string text => done ++ renderString text
  | .array values => renderValues (done ++ "[") values ++ "]"
  | .object members => renderMembers (done ++ "\x7b") members ++ "\x7d"

def renderValues (done : String) : List Json → String
  | [] => done
  | [value] => renderAfter done value
  | value :: rest => renderValues (renderAfter done value ++ ",") rest

def renderMembers (done : String) : List (String × Json) → String
  | [] => done
  | [(name, value)] => renderAfter (done ++ renderString name ++ ":") value
  | (name, value) :: rest =>
    renderMembers (renderAfter (done ++ renderString name ++ ":") value ++ ",") rest

end

def render (j : Json) : String := renderAfter "" j

end Json
end DatagramLink

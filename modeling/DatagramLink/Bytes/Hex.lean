import DatagramLink.Text.Decimal

/-!
# Hexadecimal text

Byte strings as pairs of digits.
-/

namespace DatagramLink
namespace Bytes

/-- The digit of a number below sixteen. -/
def hexDigit (n : UInt8) : Char :=
  if n < 10 then Char.ofNat ('0'.toNat + n.toNat) else Char.ofNat ('a'.toNat + (n - 10).toNat)

/-- Two digits a byte, in lower case. -/
def toHex (bytes : ByteArray) : String :=
  bytes.foldl
    (fun text byte => (text.push (hexDigit (byte >>> 4))).push (hexDigit (byte &&& 15))) ""

/-- The bytes that pairs of digits spell, behind those read before. -/
def ofHexDigits? : List Char → ByteArray → Option ByteArray
  | [], done => some done
  | high :: low :: rest, done =>
    match Text.digitValue? 16 high, Text.digitValue? 16 low with
    | some high, some low => ofHexDigits? rest (done.push (UInt8.ofNat (16 * high + low)))
    | _, _ => none
  | [_], _ => none

def ofHex? (text : String) : Option ByteArray := ofHexDigits? text.toList ByteArray.empty

end Bytes
end DatagramLink

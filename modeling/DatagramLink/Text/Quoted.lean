import DatagramLink.Text.Printable

/-!
# Quoted text

A text between double quotes as a diagnostic shows it: printable characters stand for themselves,
the quote and the backslash follow a backslash, some controls have a letter, and every other
character is written by its code point.
-/

namespace DatagramLink
namespace Text

def escapeCode (c : Char) : String :=
  "\\u\x7b" ++ String.ofList (Nat.toDigits 16 c.toNat) ++ "\x7d"

def quoteChar (c : Char) : String :=
  match c with
  | '"' => "\\\""
  | '\\' => "\\\\"
  | '\n' => "\\n"
  | '\r' => "\\r"
  | '\t' => "\\t"
  | '\x00' => "\\0"
  | c => if isPrintable c then c.toString else escapeCode c

def quote (text : String) : String :=
  "\"" ++ String.join (text.toList.map quoteChar) ++ "\""

end Text
end DatagramLink

import DatagramLink.Text.Pattern.Place

/-!
# Faults of patterns

What can be wrong with a regular expression, where, and how that is shown: the pattern with marks
under the characters at fault.  A pattern of several lines is shown with numbers in front of its
lines.
-/

namespace DatagramLink
namespace Text
namespace Pattern

/-- How deep the parts of a pattern may be nested. -/
def depthLimit : Nat := 250

/-- What is wrong with a text that is no pattern, or with a pattern that cannot be used. -/
inductive Flaw where
  | groupUnclosed
  | groupUnopened
  | nameUnclosed
  | nameInvalid
  | nameEmpty
  | nameRepeated
  | lookAround
  | switchUnknown
  | switchRepeated
  | negationRepeated
  | negationDangling
  | switchesUnclosed
  | operandMissing
  | countUnclosed
  | countMissing
  | countTooLarge
  | countsReversed
  | setUnclosed
  | setEscape
  | setBound
  | setRange
  | escapeUnfinished
  | escapeUnknown
  | backreference
  | hexDigit
  | hexEmpty
  | hexValue
  | propertyInvalid
  /-- A brace behind a word boundary, at the end. -/
  | edgeUnfinished
  /-- The kind of a word boundary has no end. -/
  | edgeUnclosed
  | edgeUnknown
  | tooDeep
  /-- A character beyond ASCII among bytes. -/
  | characterAmongBytes
  /-- Bytes that are no text could match. -/
  | notText
  /-- A property of characters that no table is at hand for. -/
  | propertyUnknown
  /-- A class of characters that no table is at hand for. -/
  | classUnavailable
  /-- Case is to be ignored, and no table of cases is at hand. -/
  | caseUnavailable
  deriving DecidableEq, Repr

def Flaw.message : Flaw → String
  | .groupUnclosed => "unclosed group"
  | .groupUnopened => "unopened group"
  | .nameUnclosed => "unclosed capture group name"
  | .nameInvalid => "invalid capture group character"
  | .nameEmpty => "empty capture group name"
  | .nameRepeated => "duplicate capture group name"
  | .lookAround => "look-around, including look-ahead and look-behind, is not supported"
  | .switchUnknown => "unrecognized flag"
  | .switchRepeated => "duplicate flag"
  | .negationRepeated => "flag negation operator repeated"
  | .negationDangling => "dangling flag negation operator"
  | .switchesUnclosed => "expected flag but got end of regex"
  | .operandMissing => "repetition operator missing expression"
  | .countUnclosed => "unclosed counted repetition"
  | .countMissing => "repetition quantifier expects a valid decimal"
  | .countTooLarge => "decimal literal invalid"
  | .countsReversed => "invalid repetition count range, the start must be <= the end"
  | .setUnclosed => "unclosed character class"
  | .setEscape => "invalid escape sequence found in character class"
  | .setBound => "invalid range boundary, must be a literal"
  | .setRange => "invalid character class range, the start must be <= the end"
  | .escapeUnfinished => "incomplete escape sequence, reached end of pattern prematurely"
  | .escapeUnknown => "unrecognized escape sequence"
  | .backreference => "backreferences are not supported"
  | .hexDigit => "invalid hexadecimal digit"
  | .hexEmpty => "hexadecimal literal empty"
  | .hexValue => "hexadecimal literal is not a Unicode scalar value"
  | .propertyInvalid => "invalid Unicode character class"
  | .edgeUnfinished =>
    "found either the beginning of a special word boundary or a bounded repetition " ++
      "on a \\b with an opening brace, but no closing brace"
  | .edgeUnclosed =>
    "special word boundary assertion is either unclosed or contains an invalid character"
  | .edgeUnknown =>
    "unrecognized special word boundary assertion, " ++
      "valid choices are: start, end, start-half or end-half"
  | .tooDeep => s!"exceed the maximum number of nested parentheses/brackets ({depthLimit})"
  | .characterAmongBytes => "Unicode not allowed here"
  | .notText => "pattern can match invalid UTF-8"
  | .propertyUnknown => "Unicode property not found"
  | .classUnavailable =>
    "Unicode-aware Perl class not found (make sure the unicode-perl feature is enabled)"
  | .caseUnavailable =>
    "Unicode-aware case insensitivity matching is not available " ++
      "(make sure the unicode-case feature is enabled)"

/-- A flaw and the characters that it lies in. -/
structure Fault where
  flaw : Flaw
  /-- The characters at fault; none where something is missing. -/
  span : Span
  /-- Characters in front that are in conflict with these. -/
  rival : Option Span := none
  deriving DecidableEq, Repr

namespace Fault

/-- The lines of a text without their ends: a line feed, or a carriage return and a line feed. -/
def linesOf (text : String) : List String :=
  match (text.splitToList (· == '\n')).reverse with
  | [] => []
  | last :: ended => ended.reverse.map dropReturn ++ if last.isEmpty then [] else [last]
where
  /-- A line without the carriage return at its end. -/
  dropReturn (line : String) : String :=
    match line.toList.reverse with
    | '\r' :: rest => String.ofList rest.reverse
    | _ => line

/-- All places at fault, in the order of the text. -/
def spans (f : Fault) : List Span := f.rival.toList ++ [f.span]

/-- Marks under spans of one line, at least one each, behind `done` columns. -/
def marks : Nat → List Span → String
  | _, [] => ""
  | done, span :: rest =>
    let width := max 1 (span.stop.column - span.start.column)
    "".pushn ' ' (span.start.column - done) ++ "".pushn '^' width ++
      marks (max done span.start.column + width) rest

/-- A line behind its label, and marks under what is at fault in it. -/
def excerptLine (f : Fault) (label line : String) (number : Nat) : String :=
  let inLine := f.spans.filter fun span => span.isOneLine && span.start.line == number
  let under := if inLine.isEmpty then "" else "".pushn ' ' label.length ++ marks 0 inLine ++ "\n"
  label ++ line ++ "\n" ++ under

/-- A number in a column of `width` characters, with a colon and a space behind it. -/
def lineLabel (width number : Nat) : String :=
  "".pushn ' ' (width - (toString number).length) ++ s!"{number}: "

/-- A span of several lines in words, in which lines and columns count from one. -/
def describe (span : Span) : String :=
  s!"on line {span.start.line + 1} (column {span.start.column + 1}) " ++
    s!"through line {span.stop.line + 1} (column {span.stop.column})\n"

/-- A line of 79 waves, above and below a pattern of several lines. -/
def divider : String := "".pushn '~' 79 ++ "\n"

def excerpt (f : Fault) (pattern : String) : String :=
  let count := (pattern.splitToList (· == '\n')).length
  let isLong := 1 < count
  let label (number : Nat) :=
    if isLong then lineLabel (toString count).length (number + 1) else "    "
  let lines := String.join <|
    (linesOf pattern).zipIdx.map fun (line, number) => f.excerptLine (label number) line number
  if isLong then
    divider ++ lines ++ divider ++
      String.join ((f.spans.filter (!·.isOneLine)).map describe)
  else
    lines

/-- The fault of a pattern with the pattern itself. -/
def report (f : Fault) (pattern : String) : String :=
  s!"regex parse error:\n{f.excerpt pattern}error: {f.flaw.message}"

end Fault
end Pattern
end Text
end DatagramLink

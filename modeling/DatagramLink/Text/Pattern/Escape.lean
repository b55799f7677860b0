import DatagramLink.Text.Decimal
import DatagramLink.Text.Pattern.Fault
import DatagramLink.Text.Pattern.Form
import DatagramLink.Text.Pattern.Scan

/-!
# Escapes

What a backslash and the characters behind it stand for: a character, a class of characters or a
condition on a place.
-/

namespace DatagramLink
namespace Text
namespace Pattern

/-! ## Classes with a letter -/

def digitRanges : List (Nat × Nat) := [(0x30, 0x39)]

def spaceRanges : List (Nat × Nat) := [(0x09, 0x0D), (0x20, 0x20)]

def wordRanges : List (Nat × Nat) := [(0x30, 0x39), (0x41, 0x5A), (0x5F, 0x5F), (0x61, 0x7A)]

/-- The class that a letter stands for behind a backslash, and whether it is negated. -/
def shorthand? : Char → Option (List (Nat × Nat) × Bool)
  | 'd' => some (digitRanges, false)
  | 'D' => some (digitRanges, true)
  | 's' => some (spaceRanges, false)
  | 'S' => some (spaceRanges, true)
  | 'w' => some (wordRanges, false)
  | 'W' => some (wordRanges, true)
  | _ => none

/-! ## Characters -/

/-- Whether a backslash takes the meaning from a character: every ASCII character but letters,
digits and angle brackets. -/
def isEscapable (c : Char) : Bool :=
  c.toNat < 128 && !(c.isAlphanum || c == '<' || c == '>')

/-- The character that a letter stands for behind a backslash. -/
def controlOf? : Char → Option Char
  | 'a' => some '\x07'
  | 'f' => some '\x0c'
  | 't' => some '\t'
  | 'n' => some '\n'
  | 'r' => some '\r'
  | 'v' => some '\x0b'
  | _ => none

/-- Whether a character is a hexadecimal digit. -/
def isHexDigit (c : Char) : Bool := (digitValue? 16 c).isSome

/-- The character with a code point in hexadecimal digits. -/
def ofHex? (digits : List Char) : Option Char :=
  (digitsFrom? 16 0 digits).bind fun code =>
    if code.isValidChar then some (Char.ofNat code) else none

def readHexDigits (spaced : Bool) : Nat → Scan → Except Fault (List Char × Scan)
  | 0, s => .ok ([], s)
  | count + 1, s =>
    match s.rest with
    | [] => .error ⟨.escapeUnfinished, s.span, none⟩
    | c :: _ =>
      if isHexDigit c then
        (readHexDigits spaced count (s.next spaced)).map fun (digits, s) => (c :: digits, s)
      else
        .error ⟨.hexDigit, s.charSpan, none⟩

/-- Reads a code point in braces, from the opening one. -/
def readHexBraces (spaced : Bool) (s : Scan) : Except Fault (Char × Scan) :=
  match (s.next spaced).readWhile spaced isHexDigit with
  | (digits, last) =>
    match last.rest with
    | [] => .error ⟨.escapeUnfinished, last.since s.place, none⟩
    | '}' :: _ =>
      let behind := last.next spaced
      if digits.isEmpty then
        .error ⟨.hexEmpty, behind.since s.place, none⟩
      else
        match ofHex? (digits.map (·.1)) with
        | some c => .ok (c, behind)
        | none => .error ⟨.hexValue, last.since s.charSpan.stop, none⟩
    | _ :: _ => .error ⟨.hexDigit, last.charSpan, none⟩

/-- Reads a code point behind its letter, in braces or of `width` digits; `start` is where the
escape begins. -/
def readHex (spaced : Bool) (start : Place) (width : Nat) (s : Scan) :
    Except Fault (Atom × Scan) := do
  if s.head? = some '{' then
    let (c, behind) ← readHexBraces spaced s
    return (.member (.literal ⟨behind.since start, c, false⟩), behind)
  else
    let (digits, behind) ← readHexDigits spaced width s
    match ofHex? digits with
    | some c => return (.member (.literal ⟨behind.since start, c, width == 2⟩), behind)
    | none => .error ⟨.hexValue, behind.since s.place, none⟩

/-! ## Properties -/

/-- Reads a property behind its letter: a name in braces or one letter. -/
def readProperty (spaced : Bool) (s : Scan) : Except Fault Scan :=
  match s.rest with
  | [] => .error ⟨.escapeUnfinished, s.span, none⟩
  | '\\' :: _ => .error ⟨.propertyInvalid, s.charSpan, none⟩
  | '{' :: _ =>
    match (s.next spaced).readWhile spaced (· != '}') with
    | (_, last) =>
      if last.isDone then .error ⟨.escapeUnfinished, last.span, none⟩ else .ok last.advance
  | _ => .ok (s.next spaced)

/-! ## Boundaries of words -/

/-- The boundary that a name in braces stands for. -/
def edgeOf? (name : String) : Option Edge :=
  match name with
  | "start" => some .start
  | "end" => some .stop
  | "start-half" => some .startHalf
  | "end-half" => some .stopHalf
  | _ => none

/-- Whether the name of a boundary may have a character. -/
def isEdgeChar (c : Char) : Bool := c.isAlpha || c == '-'

/-- Reads the name of a boundary in braces, from the opening one.  Braces in which no name begins
are left: they count repetitions. -/
def readEdge (spaced : Bool) (start : Place) (s : Scan) : Except Fault (Edge × Scan) :=
  let inside := s.next spaced
  if inside.isDone then
    .error ⟨.edgeUnfinished, inside.since start, none⟩
  else
    match inside.readWhile spaced isEdgeChar with
    | ([], _) => .ok (.any, s)
    | (name, last) =>
      if last.head? = some '}' then
        match edgeOf? (String.ofList (name.map (·.1))) with
        | some edge => .ok (edge, last.advance)
        | none => .error ⟨.edgeUnknown, last.since inside.place, none⟩
      else
        .error ⟨.edgeUnclosed, last.since s.place, none⟩

/-- The condition that a letter or an angle bracket stands for behind a backslash. -/
def boundaryOf? : Char → Option Boundary
  | 'A' => some .textStart
  | 'z' => some .textEnd
  | 'b' => some (.word .any)
  | 'B' => some (.word .none)
  | '<' => some (.word .start)
  | '>' => some (.word .stop)
  | _ => none

/-! ## Escapes -/

/-- What one character behind a backslash stands for. -/
def plainEscape (span : Span) (c : Char) : Except Fault Atom :=
  match shorthand? c, boundaryOf? c, controlOf? c with
  | some (ranges, isNegated), _, _ => .ok (.member (.shorthand span ranges isNegated))
  | none, some boundary, _ => .ok (.boundary span boundary)
  | none, none, some control => .ok (.member (.literal ⟨span, control, false⟩))
  | none, none, none =>
    if isEscapable c then .ok (.member (.literal ⟨span, c, false⟩))
    else .error ⟨if c.isDigit then .backreference else .escapeUnknown, span, none⟩

/-- Reads an escape, from its backslash. -/
def readEscape (spaced : Bool) (s : Scan) : Except Fault (Atom × Scan) :=
  let start := s.place
  let letter := s.advance
  match letter.rest with
  | [] => .error ⟨.escapeUnfinished, letter.since start, none⟩
  | 'x' :: _ => readHex spaced start 2 (letter.next spaced)
  | 'u' :: _ => readHex spaced start 4 (letter.next spaced)
  | 'U' :: _ => readHex spaced start 8 (letter.next spaced)
  | 'p' :: _ | 'P' :: _ =>
    (readProperty spaced (letter.next spaced)).map fun behind =>
      (.member (.property (behind.since start)), behind)
  | 'b' :: '{' :: _ =>
    (readEdge spaced start letter.advance).map fun (edge, behind) =>
      (.boundary (behind.since start) (.word edge), behind)
  | c :: _ => (plainEscape (letter.advance.since start) c).map fun atom => (atom, letter.advance)

end Pattern
end Text
end DatagramLink

import DatagramLink.Text.Pattern.CharSet
import DatagramLink.Text.Pattern.Form
import DatagramLink.Text.Pattern.Utf8Range

/-!
# Expressions

What a pattern means, without its spelling: bytes, sets, conditions, repetitions, sequences and
choices.  The smart constructors (`ofChars`, `ofBytes`, `repeated`, `inSequence`, `choose`) keep
expressions small: neighbouring literals are one, and a choice between single characters is a set.
-/

namespace DatagramLink
namespace Text
namespace Pattern

/-- A condition on a place in the text, with all switches taken into account. -/
inductive Look where
  | textStart
  | textEnd
  | lineStart (returns : Bool)
  | lineEnd (returns : Bool)
  | word (edge : Edge) (unicode : Bool)
  deriving DecidableEq, Repr

/-- What a pattern means. -/
inductive Expr where
  | empty
  | literal (bytes : List UInt8)
  /-- A byte out of a set. -/
  | byte (set : CharSet)
  /-- A character out of a set. -/
  | char (set : CharSet)
  | look (condition : Look)
  | repetition (least : Nat) (most : Option Nat) (isLazy : Bool) (e : Expr)
  | capture (number : Nat) (e : Expr)
  | sequence (es : List Expr)
  | choice (es : List Expr)

/-! ## What holds of an expression -/

/-- What holds of every text that an expression matches. -/
structure Shape where
  /-- The text is empty. -/
  isVoid : Bool := false
  /-- The text has at least so many bytes; none where nothing can match. -/
  least : Option Nat := some 0
  /-- The match starts where the text starts. -/
  atStart : Bool := false
  /-- The match ends where the text ends. -/
  atEnd : Bool := false
  /-- Boundaries of words outside of ASCII take part. -/
  needsWords : Bool := false
  deriving DecidableEq, Repr

namespace Shape

/-- The length of the sum of two texts, where both can match. -/
def sum? (a b : Option Nat) : Option Nat := do return (← a) + (← b)

/-- The length of the shorter of two texts, where both can match. -/
def min? (a b : Option Nat) : Option Nat := do return min (← a) (← b)

/-- Whether a condition holds at the start of texts one behind the other. -/
def atStartOf : List Shape → Bool
  | [] => false
  | s :: rest => s.atStart || (s.isVoid && atStartOf rest)

/-- Whether a condition holds at the end of texts, from the last to the first. -/
def atEndOf : List Shape → Bool
  | [] => false
  | s :: rest => s.atEnd || (s.isVoid && atEndOf rest)

def inSequence (shapes : List Shape) : Shape where
  isVoid := shapes.all (·.isVoid)
  least := shapes.foldl (fun sum s => sum? sum s.least) (some 0)
  atStart := atStartOf shapes
  atEnd := atEndOf shapes.reverse
  needsWords := shapes.any (·.needsWords)

def inChoice (shapes : List Shape) : Shape where
  isVoid := shapes.all (·.isVoid)
  least := match shapes with
    | [] => none
    | s :: rest => rest.foldl (fun least s => min? least s.least) s.least
  atStart := !shapes.isEmpty && shapes.all (·.atStart)
  atEnd := !shapes.isEmpty && shapes.all (·.atEnd)
  needsWords := shapes.any (·.needsWords)

def repeated (least : Nat) (most : Option Nat) (s : Shape) : Shape where
  isVoid := s.isVoid && most.isSome
  least := s.least.map (· * least)
  atStart := 0 < least && s.atStart
  atEnd := 0 < least && s.atEnd
  needsWords := s.needsWords

end Shape

namespace Look

def shape (condition : Look) : Shape where
  isVoid := true
  atStart := condition = .textStart
  atEnd := condition = .textEnd
  needsWords := match condition with
    | .word _ unicode => unicode
    | _ => false

end Look

namespace CharSet

/-- The length of the shortest character of a set in UTF-8. -/
def shortest? (s : CharSet) : Option Nat :=
  s.turns.head?.map fun code =>
    if code < 0x80 then 1 else if code < 0x800 then 2 else if code < 0x10000 then 3 else 4

end CharSet

namespace Expr

mutual

/-- What holds of every text that an expression matches. -/
def shape : Expr → Shape
  | empty => { isVoid := true }
  | literal bytes => { least := some bytes.length }
  | byte set => { least := if set.isEmpty then none else some 1 }
  | char set => { least := set.shortest? }
  | look condition => condition.shape
  | repetition least most _ e => e.shape.repeated least most
  | capture _ e => e.shape
  | sequence es => .inSequence (shapes es)
  | choice es => .inChoice (shapes es)

/-- What holds of every text that the expressions of a list match. -/
def shapes : List Expr → List Shape
  | [] => []
  | e :: es => e.shape :: shapes es

end

mutual

def same : Expr → Expr → Bool
  | empty, empty => true
  | literal a, literal b => a == b
  | byte s, byte t | char s, char t => s == t
  | look a, look b => a == b
  | repetition least most isLazy e, repetition least' most' isLazy' f =>
    least == least' && most == most' && isLazy == isLazy' && e.same f
  | capture n e, capture m f => n == m && e.same f
  | sequence es, sequence fs | choice es, choice fs => allSame es fs
  | _, _ => false

/-- Whether the expressions of two lists are the same. -/
def allSame : List Expr → List Expr → Bool
  | [], [] => true
  | e :: es, f :: fs => e.same f && allSame es fs
  | _, _ => false

end

/-! ## Smart constructors -/

def fail : Expr := byte {}

def ofChar (c : Char) : Expr := literal (String.utf8EncodeChar c)

def ofChars (set : CharSet) : Expr :=
  if set.isEmpty then fail
  else
    match set.single? with
    | some code => ofChar (Char.ofNat code)
    | none => char set

def ofBytes (set : CharSet) : Expr :=
  match set.single? with
  | some code => literal [UInt8.ofNat code]
  | none => byte set

/-- An expression again and again.  What matches only the empty text need not be repeated. -/
def repeated (least : Nat) (most : Option Nat) (isLazy : Bool) (e : Expr) : Expr :=
  let isVoid := e.shape.isVoid
  let least := if isVoid then min least 1 else least
  let most := if isVoid then some ((most.map (min · 1)).getD 1) else most
  if least = 0 && most == some 0 then empty
  else if least = 1 && most == some 1 then e
  else repetition least most isLazy e

/-- Makes one literal out of neighbouring ones. -/
def glue : List Expr → List Expr
  | [] => []
  | literal bytes :: es =>
    match glue es with
    | literal more :: rest => literal (bytes ++ more) :: rest
    | rest => literal bytes :: rest
  | e :: es => e :: glue es

def steps : Expr → List Expr
  | empty => []
  | sequence es => es
  | e => [e]

def inSequence (es : List Expr) : Expr :=
  match glue (es.flatMap steps) with
  | [] => empty
  | [e] => e
  | es => sequence es

def branches : Expr → List Expr
  | choice es => es
  | e => [e]

/-- The character that an expression stands for. -/
def char? : Expr → Option CharSet
  | literal bytes => do
    let text ← String.fromUTF8? ⟨bytes.toArray⟩
    match text.toList with
    | [c] => some (.range c.toNat c.toNat)
    | _ => none
  | _ => none

/-- The set of characters that an expression stands for. -/
def set? : Expr → Option CharSet
  | char set => some set
  | byte set => if set.isAscii then some set else none
  | _ => none

/-- The union of sets, if there is one for every expression. -/
def unionOf? (set? : Expr → Option CharSet) (es : List Expr) : Option CharSet := do
  return (← es.mapM set?).foldl .union {}

/-- A choice whose branches begin in different ways. -/
def chooseFlat (es : List Expr) : Expr :=
  match es.flatMap branches with
  | [] => fail
  | [e] => e
  | es =>
    match (unionOf? char? es).or (unionOf? set? es) with
    | some set => ofChars set
    | none => choice es

/-- How many members two sequences have in common in front. -/
def commonLength : List Expr → List Expr → Nat
  | e :: es, f :: fs => if e.same f then commonLength es fs + 1 else 0
  | _, _ => 0

/-- The members of an expression that is a sequence. -/
def sequence? : Expr → Option (List Expr)
  | sequence es => some es
  | _ => none

/-- What all branches begin with, and what is left of each; none where there is nothing. -/
def commonStart? (es : List Expr) : Option (List Expr × List Expr) := do
  match ← es.mapM sequence? with
  | [] => none
  | first :: others =>
    let count := (others.map (commonLength first)).foldl min first.length
    if count = 0 then none
    else
      some (first.take count, (first :: others).map fun steps => inSequence (steps.drop count))

/-- One of several expressions.  What all branches begin with stands in front of the choice. -/
def choose (es : List Expr) : Expr :=
  match chooseFlat es with
  | choice es =>
    match commonStart? es with
    | some (start, rests) => inSequence (start ++ [chooseFlat rests])
    | none => choice es
  | e => e

end Expr
end Pattern
end Text
end DatagramLink

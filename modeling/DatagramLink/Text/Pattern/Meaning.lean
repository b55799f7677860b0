import DatagramLink.Text.Pattern.Expr
import DatagramLink.Text.Pattern.Fault

/-!
# The meaning of patterns

The expression that a form stands for.  Switches change the meaning of what follows them.  Without
tables of characters there are no classes of Unicode and no cases but those of ASCII, so a form that
asks for them has a fault; so has one that could match bytes that are no text.
-/

namespace DatagramLink
namespace Text
namespace Pattern

/-- The switches that are on. -/
structure Switches where
  caseless : Bool := false
  multiline : Bool := false
  dotAll : Bool := false
  lazy : Bool := false
  unicode : Bool := true
  returns : Bool := false
  deriving DecidableEq, Repr

namespace Switches

/-- Turns a switch.  Whether a pattern is spaced means nothing any more. -/
def turn (s : Switches) : Setting → Switches
  | (.caseless, on) => { s with caseless := on }
  | (.multiline, on) => { s with multiline := on }
  | (.dotAll, on) => { s with dotAll := on }
  | (.lazy, on) => { s with lazy := on }
  | (.unicode, on) => { s with unicode := on }
  | (.returns, on) => { s with returns := on }
  | (.spaced, _) => s

def turnAll (s : Switches) (settings : List Setting) : Switches := settings.foldl turn s

end Switches

/-! ## Literals -/

namespace Literal

/-- The fault of a byte that alone is no text. -/
def byteFault? (l : Literal) (s : Switches) : Option Fault :=
  if l.isByte && !s.unicode && 0x80 ≤ l.char.toNat then some ⟨.notText, l.span, none⟩ else none

/-- The code of a literal as the bound of a range. -/
def code (l : Literal) (s : Switches) : Except Fault Nat :=
  match l.byteFault? s with
  | some fault => .error fault
  | none =>
    if !s.unicode && 0x80 ≤ l.char.toNat then .error ⟨.characterAmongBytes, l.span, none⟩
    else .ok l.char.toNat

def meaning (l : Literal) (s : Switches) : Except Fault Expr :=
  match l.byteFault? s with
  | some fault => .error fault
  | none =>
    if s.caseless && s.unicode then .error ⟨.caseUnavailable, l.span, none⟩
    else if s.caseless && l.char.isAlpha then
      .ok (.ofBytes (CharSet.range l.char.toNat l.char.toNat).foldCase)
    else .ok (.ofChar l.char)

end Literal

/-! ## Sets -/

namespace CharSet

/-- The members of the alphabet that are not in a set. -/
def complement (s : CharSet) (unicode : Bool) : CharSet :=
  (if unicode then characters else bytes).difference s

/-- A set whose brackets end: its case ignored and its members exchanged, as far as that is asked
for.  `isNamed` tells whether characters of its own are named in it. -/
def close (members : CharSet) (s : Switches) (span : Span) (isNegated isNamed : Bool) :
    Except Fault CharSet :=
  let closed := if s.caseless && !s.unicode then members.foldCase else members
  let closed := if isNegated then closed.complement s.unicode else closed
  if s.unicode then
    if s.caseless && isNamed then .error ⟨.caseUnavailable, span, none⟩ else .ok closed
  else
    if closed.isAscii then .ok closed else .error ⟨.notText, span, none⟩

def apply (op : SetOperation) (a b : CharSet) : CharSet :=
  match op with
  | .intersection => a.intersection b
  | .difference => a.difference b
  | .symmetricDifference => a.symmetricDifference b

end CharSet

namespace Member

/-- The characters of a member of a set. -/
def members (m : Member) (s : Switches) : Except Fault CharSet :=
  match m with
  | .literal l => (l.code s).map fun code => .range code code
  | .property span =>
    .error ⟨if s.unicode then .propertyUnknown else .characterAmongBytes, span, none⟩
  | .shorthand span ranges isNegated =>
    if s.unicode then .error ⟨.classUnavailable, span, none⟩
    else (CharSet.ofRanges ranges).close { s with caseless := false } span isNegated true

/-- The expression of a member that stands alone. -/
def meaning (m : Member) (s : Switches) : Except Fault Expr :=
  match m with
  | .literal l => l.meaning s
  | m => (m.members s).map .ofBytes

end Member

namespace SetForm

mutual

/-- Whether characters are named in a set, and not only in sets within it. -/
def isNamed : SetForm → Bool
  | .member (.literal _) | .range _ _ _ => true
  | .union _ items => anyNamed items
  | _ => false

/-- Whether characters are named in some parts of a set. -/
def anyNamed : List SetForm → Bool
  | [] => false
  | item :: items => item.isNamed || anyNamed items

end

/-- An operand of an operation on sets, its case ignored if that is asked for. -/
def operand (form : SetForm) (members : CharSet) (s : Switches) : Except Fault CharSet :=
  if s.caseless && s.unicode && form.isNamed then .error ⟨.caseUnavailable, form.span, none⟩
  else .ok (if s.caseless && !s.unicode then members.foldCase else members)

mutual

/-- The characters of a part of a set. -/
def members (s : Switches) : SetForm → Except Fault CharSet
  | .empty _ => .ok {}
  | .member m => m.members s
  | .range _ low high => do
    let set := CharSet.range (← low.code s) (← high.code s)
    return if s.unicode then set.intersection .characters else set
  | .named span ranges isNegated => (CharSet.ofRanges ranges).close s span isNegated true
  | .bracketed span isNegated content => do
    (← content.members s).close s span isNegated content.isNamed
  | .union _ items => allMembers s items
  | .operation _ op left right => do
    let a ← left.members s
    let b ← right.members s
    let b ← right.operand b s
    let a ← left.operand a s
    return .apply op a b

/-- The characters of some parts of a set. -/
def allMembers (s : Switches) : List SetForm → Except Fault CharSet
  | [] => .ok {}
  | item :: items => do
    let a ← item.members s
    let b ← allMembers s items
    return a.union b

end
end SetForm

/-! ## Forms -/

def dotMeaning (s : Switches) (span : Span) : Except Fault Expr :=
  let ends :=
    if s.dotAll then {} else if s.returns then CharSet.ofRanges [(0x0A, 0x0A), (0x0D, 0x0D)]
    else .range 0x0A 0x0A
  if s.unicode then .ok (.ofChars (ends.complement true)) else .error ⟨.notText, span, none⟩

namespace Boundary

/-- The condition that a boundary stands for. -/
def look (b : Boundary) (s : Switches) : Look :=
  match b with
  | .textStart => .textStart
  | .textEnd => .textEnd
  | .lineStart => if s.multiline then .lineStart s.returns else .textStart
  | .lineEnd => if s.multiline then .lineEnd s.returns else .textEnd
  | .word edge => .word edge s.unicode

end Boundary

namespace Atom

def meaning (a : Atom) (s : Switches) : Except Fault Expr :=
  match a with
  | .member m => m.meaning s
  | .dot span => dotMeaning s span
  | .boundary _ b => .ok (.look (b.look s))

end Atom

namespace Form

mutual

/-- The expression of a form, and the switches behind it. -/
def meaningIn (s : Switches) : Form → Except Fault (Expr × Switches)
  | .empty _ => .ok (.empty, s)
  | .switches _ settings => .ok (.empty, s.turnAll settings)
  | .atom a => (a.meaning s).map fun e => (e, s)
  | .set span isNegated content => do
    let set ← (← content.members s).close s span isNegated content.isNamed
    return (if s.unicode then .ofChars set else .ofBytes set, s)
  | .repetition _ least most isLazy form => do
    let (e, s) ← form.meaningIn s
    return (e.repeated least most (isLazy != s.lazy), s)
  | .group _ number settings form => do
    let (e, _) ← form.meaningIn (s.turnAll settings)
    return (match number with | some number => .capture number e | none => e, s)
  | .choice _ forms => do
    let (es, s) ← meaningsIn s forms
    return (.choose es, s)
  | .sequence _ forms => do
    let (es, s) ← meaningsIn s forms
    return (.inSequence es, s)

/-- The expressions of forms one behind the other, and the switches behind them. -/
def meaningsIn (s : Switches) : List Form → Except Fault (List Expr × Switches)
  | [] => .ok ([], s)
  | form :: forms => do
    let (e, s) ← form.meaningIn s
    let (es, s) ← meaningsIn s forms
    return (e :: es, s)

end

/-- The expression that a form stands for. -/
def meaning (form : Form) : Except Fault Expr := (form.meaningIn {}).map (·.1)

end Form
end Pattern
end Text
end DatagramLink

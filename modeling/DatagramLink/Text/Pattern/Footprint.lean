import DatagramLink.Text.Pattern.Expr

/-!
# The size of automata

How much memory an automaton takes that finds the matches of an expression, forward from their
start or backward from their end.  The automaton has a state for every byte or range of bytes, and
further states where it branches and where a group begins and ends.  Characters outside of ASCII
take several states in a row, which are shared where they can be.
-/

namespace DatagramLink
namespace Text
namespace Pattern

/-- Which way an automaton reads. -/
inductive Direction where
  | forward
  | backward
  deriving DecidableEq, Repr

def stateSize : Nat := 32

/-- The bytes of an arrow, with the bytes that it is for, out of a state with several of them. -/
def arrowSize : Nat := 8

/-- The bytes of a branch, an arrow for no bytes. -/
def branchSize : Nat := 4

/-- An automaton as far as its size goes. -/
structure Footprint where
  /-- The bytes that it takes. -/
  size : Nat
  /-- Whether its last state branches, so that it grows with what comes behind. -/
  isOpen : Bool := false
  deriving DecidableEq, Repr

namespace Footprint

/-- What an arrow to the next automaton takes. -/
def link (f : Footprint) : Nat := if f.isOpen then branchSize else 0

/-! ## Characters -/

/-- A state with an arrow for every range. -/
def ofRanges (count : Nat) : Footprint := ⟨2 * stateSize + arrowSize * count, false⟩

/-- A state with arrows to numbered states. -/
abbrev Node := List (ByteRange × Nat)

/-- The number of a state among the known ones, which it joins if it is new; zero is the last
state. -/
def intern (node : Node) (known : List Node) : Nat × List Node :=
  match known.findIdx? (· == node) with
  | some index => (index + 1, known)
  | none => (known.length + 1, known ++ [node])

/-- Adds states that read sequences of at most so many byte ranges: the number of the first one. -/
def share : Nat → List (List ByteRange) → List Node → Nat × List Node
  | 0, _, known => (0, known)
  | length + 1, sequences, known =>
    if sequences.all (·.isEmpty) then
      (0, known)
    else
      let groups := sequences.splitBy fun a b => a.head? == b.head?
      let (node, known) := groups.foldl (fun (node, known) group =>
        let (next, known) := share length (group.map List.tail) known
        (node ++ (group.head?.bind List.head?).toList.map (·, next), known)) ([], known)
      intern node known

/-- The encodings of the characters of a set. -/
def encodings (set : CharSet) : List (List ByteRange) :=
  set.ranges.flatMap fun (low, high) => ByteRange.ofCharacters low high

/-- A character out of a set: forward, states with the same arrows are one; backward, sequences
share what they begin with. -/
def ofSet (direction : Direction) (set : CharSet) : Footprint :=
  if set.isAscii then
    ofRanges set.ranges.length
  else
    match direction with
    | .forward =>
      let nodes := (share 4 (encodings set) []).2
      ⟨nodes.foldl (fun size node => size + stateSize + arrowSize * node.length) stateSize, false⟩
    | .backward =>
      let starts := (encodings set).flatMap fun bytes =>
        (List.range bytes.length).map fun count => bytes.take (count + 1)
      ⟨2 * stateSize + stateSize * starts.eraseDups.length +
        branchSize * (encodings set).length, false⟩

/-! ## Literals to choose from -/

/-- Literals to choose from, by their first bytes.  Where a literal ends, what was added before and
what is added behind are kept apart. -/
inductive Trie where
  | node (before : List (List (UInt8 × Trie))) (now : List (UInt8 × Trie))

namespace Trie

def empty : Trie := node [] []

/-- The literals that go on behind a byte. -/
def next (b : UInt8) (branches : List (UInt8 × Trie)) : Trie := (branches.lookup b).getD empty

/-- Sets the literals that go on behind a byte. -/
def setNext (b : UInt8) (t : Trie) : List (UInt8 × Trie) → List (UInt8 × Trie)
  | [] => [(b, t)]
  | branch :: rest => if branch.1 == b then (b, t) :: rest else branch :: setNext b t rest

def insert : Trie → List UInt8 → Trie
  | node before now, [] =>
    if (before ++ [now]).all (·.isEmpty) && !before.isEmpty then node before now
    else node (before ++ [now]) []
  | node before now, b :: bytes => node before (setNext b ((next b now).insert bytes) now)

def isLeaf : Trie → Bool
  | node before now => (before ++ [now]).all (·.isEmpty)

/-- The size of a state with arrows for some bytes. -/
def stateOf (count : Nat) : Nat :=
  if count = 1 then stateSize else stateSize + arrowSize * count

mutual

/-- The size of the states for some literals: a branch for every run of arrows, and one to the end
between two runs. -/
def size : Trie → Nat
  | node before now =>
    stateSize + branchSize * before.length + sizeOfRuns before + sizeOfRun now

/-- The size of the states for runs of arrows. -/
def sizeOfRuns : List (List (UInt8 × Trie)) → Nat
  | [] => 0
  | run :: runs => sizeOfRun run + sizeOfRuns runs

/-- The size of the states for a run of arrows. -/
def sizeOfRun (run : List (UInt8 × Trie)) : Nat :=
  if run.isEmpty then 0 else branchSize + stateOf run.length + sizeBehind run

/-- The size of the states behind arrows. -/
def sizeBehind : List (UInt8 × Trie) → Nat
  | [] => 0
  | (_, t) :: rest => (if t.isLeaf then 0 else t.size) + sizeBehind rest

end
end Trie

def ofLiterals (direction : Direction) (literals : List (List UInt8)) : Footprint :=
  let read := match direction with
    | .forward => literals
    | .backward => literals.map List.reverse
  ⟨stateSize + (read.foldl (fun trie bytes => trie.insert bytes) Trie.empty).size, false⟩

/-! ## Expressions -/

/-- Automata one behind the other, in the order in which they read. -/
def inSequence : List Footprint → Footprint
  | [] => ⟨stateSize, false⟩
  | [f] => f
  | f :: rest =>
    let behind := inSequence rest
    ⟨f.size + f.link + behind.size, behind.isOpen⟩

def inChoice (fs : List Footprint) : Footprint :=
  ⟨fs.foldl (fun size f => size + f.size + branchSize + f.link) (2 * stateSize), false⟩

/-- The same automaton a number of times in a row. -/
def times (f : Footprint) (count : Nat) : Footprint :=
  if count = 0 then ⟨stateSize, false⟩ else ⟨count * f.size + (count - 1) * f.link, f.isOpen⟩

/-- An automaton at least so many times in a row; `isVoid` tells whether it may read nothing. -/
def atLeast (f : Footprint) (count : Nat) (isVoid : Bool) : Footprint :=
  match count with
  | 0 =>
    if isVoid then ⟨f.size + f.link + 3 * stateSize + 4 * branchSize, false⟩
    else ⟨f.size + f.link + stateSize + branchSize, true⟩
  | 1 => ⟨f.size + f.link + stateSize + branchSize, true⟩
  | count => ⟨(f.times count).size + f.link + stateSize + branchSize, true⟩

/-- An automaton from so many up to so many times in a row. -/
def between (f : Footprint) (least most : Nat) : Footprint :=
  if least = most then f.times least
  else if least = 0 && most = 1 then
    ⟨f.size + f.link + 2 * stateSize + 2 * branchSize, false⟩
  else
    let first := f.times least
    ⟨first.size + first.link + stateSize +
      (most - least) * (f.size + f.link + stateSize + 2 * branchSize), false⟩

/-- A group that is remembered: only an automaton that reads forward notes where it begins and
ends. -/
def capture (direction : Direction) (f : Footprint) : Footprint :=
  match direction with
  | .forward => ⟨f.size + f.link + 2 * stateSize, false⟩
  | .backward => f

end Footprint

namespace Expr

def literal? : Expr → Option (List UInt8)
  | literal bytes => some bytes
  | _ => none

mutual

def footprint (direction : Direction) : Expr → Footprint
  | empty | look _ => ⟨stateSize, false⟩
  | literal bytes => ⟨stateSize * bytes.length, false⟩
  | byte set => .ofRanges set.ranges.length
  | char set => .ofSet direction set
  | repetition least most _ e =>
    match most with
    | none => (e.footprint direction).atLeast least !(e.shape.least.any (0 < ·))
    | some most => (e.footprint direction).between least most
  | capture _ e => (e.footprint direction).capture direction
  | sequence es =>
    match direction with
    | .forward => .inSequence (footprints direction es)
    | .backward => .inSequence (footprints direction es).reverse
  | choice es =>
    match es.mapM literal? with
    | some literals => .ofLiterals direction literals
    | none => .inChoice (footprints direction es)

def footprints (direction : Direction) : List Expr → List Footprint
  | [] => []
  | e :: es => e.footprint direction :: footprints direction es

end

/-- The bytes that an automaton takes which finds the matches of an expression.  It skips what
stands in front of a match, unless a match must begin there. -/
def automatonSize (direction : Direction) (e : Expr) : Nat :=
  let whole := (e.footprint direction).capture direction
  let isAnchored := match direction with
    | .forward => e.shape.atStart
    | .backward => e.shape.atEnd
  let skipping := if isAnchored then stateSize else 3 * stateSize + arrowSize + 2 * branchSize
  skipping + whole.size + whole.link + stateSize

end Expr
end Pattern
end Text
end DatagramLink

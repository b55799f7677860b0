import DatagramLink.Address
import DatagramLink.Text.Decimal

/-!
# Text forms of addresses

Printing and reading of hosts, endpoints and addresses.  IPv4 is written as four decimal octets;
IPv6 as hexadecimal groups, where the first longest run of at least two zero groups is written `::`
and an embedded IPv4 host keeps its decimal form; an endpoint adds the port, and for IPv6 the
brackets and the scope.  Reading is strict: no blanks, no leading zeros in an octet, at most four
digits in a group, and a scope only inside brackets.
-/

namespace DatagramLink

open Std.Net

/-! ## Printing -/

namespace Address

/-- An IPv4 host: four decimal octets. -/
def renderV4 (host : IPv4Addr) : String :=
  let o := host.octets
  s!"{o[0]}.{o[1]}.{o[2]}.{o[3]}"

/-- A group of an IPv6 host in lower-case hexadecimal. -/
def renderGroup (group : UInt16) : String :=
  String.ofList (Nat.toDigits 16 group.toNat)

def renderGroups (groups : List UInt16) : String :=
  ":".intercalate (groups.map renderGroup)

/-- Number of zero groups at the front. -/
def leadingZeros (groups : List UInt16) : Nat :=
  (groups.takeWhile (· == 0)).length

/-- Start and length of the first longest run of zero groups, scanning from index `start` on with
the best run found so far. -/
def longestZeros (start : Nat) (best : Nat × Nat) : List UInt16 → Nat × Nat
  | [] => best
  | group :: rest =>
    let run := leadingZeros (group :: rest)
    longestZeros (start + 1) (if best.2 < run then (start, run) else best) rest

def renderV6 (host : IPv6Addr) : String :=
  match host.segments.toList with
  | [0, 0, 0, 0, 0, 0xFFFF, high, low] =>
    "::ffff:" ++
      renderV4 ⟨#v[(high >>> 8).toUInt8, high.toUInt8, (low >>> 8).toUInt8, low.toUInt8]⟩
  | groups =>
    let (start, length) := longestZeros 0 (0, 0) groups
    if length < 2 then
      renderGroups groups
    else
      renderGroups (groups.take start) ++ "::" ++ renderGroups (groups.drop (start + length))

end Address

/-- An endpoint: `host:port`, with brackets around an IPv6 host and its scope. -/
def Endpoint.render : Endpoint → String
  | .v4 host port => s!"{Address.renderV4 host}:{port}"
  | .v6 host scope port =>
    let scopeText := if scope = 0 then "" else s!"%{scope}"
    s!"[{Address.renderV6 host}{scopeText}]:{port}"

/-- The name of a side in messages. -/
def Side.render : Side → String
  | .client => "client"
  | .server => "server"

namespace Address

def render : Address → String
  | .loopback => "loopback"
  | .remote endpoint => endpoint.render

instance : ToString Address := ⟨render⟩
instance : ToString Endpoint := ⟨Endpoint.render⟩
instance : ToString Side := ⟨Side.render⟩

/-! ## Reading -/

/-- A reader takes a value off the front of a text, or fails. -/
abbrev Reader (α : Type) := List Char → Option (α × List Char)

namespace Reader

def char (c : Char) : Reader Unit
  | d :: rest => if c = d then some ((), rest) else none
  | [] => none

/-- Takes a number in `base`: all digits that follow, at least one and at most `maxDigits`, with a
value of at most `limit`; a leading zero only where `zeros` allows it. -/
def number (base : Nat) (maxDigits : Option Nat) (zeros : Bool) (limit : Nat) : Reader Nat :=
  fun chars =>
    let digits := chars.takeWhile fun c => (Text.digitValue? base c).isSome
    let rest := chars.dropWhile fun c => (Text.digitValue? base c).isSome
    let tooLong := maxDigits.any (· < digits.length)
    let zeroLed := !zeros && 1 < digits.length && digits.head? == some '0'
    if digits.isEmpty || tooLong || zeroLed then
      none
    else
      match Text.digitsFrom? base 0 digits with
      | some value => if value ≤ limit then some (value, rest) else none
      | none => none

def octet : Reader UInt8 := fun chars => do
  let (value, rest) ← number 10 (some 3) false 255 chars
  some (UInt8.ofNat value, rest)

def v4 : Reader IPv4Addr := fun chars => do
  let (a, chars) ← octet chars
  let ((), chars) ← char '.' chars
  let (b, chars) ← octet chars
  let ((), chars) ← char '.' chars
  let (c, chars) ← octet chars
  let ((), chars) ← char '.' chars
  let (d, chars) ← octet chars
  some (⟨#v[a, b, c, d]⟩, chars)

/-- A hexadecimal group of an IPv6 host. -/
def group : Reader UInt16 := fun chars => do
  let (value, rest) ← number 16 (some 4) true 0xFFFF chars
  some (UInt16.ofNat value, rest)

/-- The colon in front of every group of a run but the first. -/
def separator (isFirst : Bool) : Reader Unit := fun chars =>
  if isFirst then some ((), chars) else char ':' chars

/-- An IPv4 host as the two groups that it fills. -/
def embedded (host : IPv4Addr) : List UInt16 :=
  let o := host.octets
  [o[0].toUInt16 <<< 8 ||| o[1].toUInt16, o[2].toUInt16 <<< 8 ||| o[3].toUInt16]

/-- A run of at most `room` groups separated by colons, as far as it goes.  An IPv4 host may stand
for the last two groups and ends the run; the flag tells whether one did. -/
def groups (isFirst : Bool) : Nat → List Char → List UInt16 × Bool × List Char
  | 0, chars => ([], false, chars)
  | room + 1, chars =>
    let host? := if room = 0 then none else (separator isFirst chars).bind fun s => v4 s.2
    match host? with
    | some (host, rest) => (embedded host, true, rest)
    | none =>
      match (separator isFirst chars).bind fun s => group s.2 with
      | some (value, rest) =>
        let (values, ended, rest) := groups false room rest
        (value :: values, ended, rest)
      | none => ([], false, chars)

def hostOfGroups? (values : List UInt16) : Option IPv6Addr :=
  if h : values.toArray.size = 8 then some ⟨⟨values.toArray, h⟩⟩ else none

/-- An IPv6 host: eight groups, or fewer around one `::` that stands for at least one group. -/
def v6 : Reader IPv6Addr := fun chars =>
  match groups true 8 chars with
  | (front, ended, rest) =>
    if front.length = 8 then
      (hostOfGroups? front).map (·, rest)
    else if ended then
      none
    else do
      let ((), rest) ← char ':' rest
      let ((), rest) ← char ':' rest
      let (back, _, rest) := groups true (7 - front.length) rest
      let zeros := List.replicate (8 - front.length - back.length) 0
      let host ← hostOfGroups? (front ++ zeros ++ back)
      some (host, rest)

def port : Reader UInt16 := fun chars => do
  let ((), chars) ← char ':' chars
  let (value, chars) ← number 10 none true 0xFFFF chars
  some (UInt16.ofNat value, chars)

/-- The scope after its percent sign, zero where there is none. -/
def scope : Reader UInt32 := fun chars =>
  match (do
    let ((), chars) ← char '%' chars
    number 10 none true 0xFFFFFFFF chars) with
  | some (value, rest) => some (UInt32.ofNat value, rest)
  | none => some (0, chars)

def host : Reader IPAddr := fun chars =>
  match v4 chars with
  | some (host, rest) => some (.v4 host, rest)
  | none => (v6 chars).map fun (host, rest) => (.v6 host, rest)

def endpointV4 : Reader Endpoint := fun chars => do
  let (host, chars) ← v4 chars
  let (port, chars) ← port chars
  some (.v4 host port, chars)

/-- An IPv6 endpoint: the host in brackets, then the port. -/
def endpointV6 : Reader Endpoint := fun chars => do
  let ((), chars) ← char '[' chars
  let (host, chars) ← v6 chars
  let (scope, chars) ← scope chars
  let ((), chars) ← char ']' chars
  let (port, chars) ← port chars
  some (.v6 host scope port, chars)

def endpoint : Reader Endpoint := fun chars =>
  endpointV4 chars <|> endpointV6 chars

/-- The value of a text that a reader takes completely. -/
def whole {α : Type} (reader : Reader α) (text : String) : Option α :=
  match reader text.toList with
  | some (value, []) => some value
  | _ => none

end Reader

/-- The two names of the loopback address; case does not matter in ASCII letters. -/
def isLoopbackName (text : String) : Bool :=
  let lower := text.map Char.toLower
  lower == "localhost" || lower == "loopback"

/-- Why a text is no address. -/
inductive ParseError where
  /-- Neither a loopback name nor an endpoint nor a host. -/
  | notAnAddress
  /-- Not an endpoint, where only an endpoint will do. -/
  | notAnEndpoint
  deriving DecidableEq, Repr

def ParseError.message : ParseError → String
  | .notAnAddress => "invalid IP address syntax"
  | .notAnEndpoint => "invalid socket address syntax"

/-- Reads `localhost`, an endpoint, or a host on the default port. -/
def parse (text : String) : Except ParseError Address :=
  if isLoopbackName text then
    .ok .loopback
  else
    match Reader.whole Reader.endpoint text with
    | some endpoint => .ok (.remote endpoint)
    | none =>
      match Reader.whole Reader.host text with
      | some host => .ok (.remote (.ofHost host defaultPort))
      | none => .error .notAnAddress

end Address

def Endpoint.parse (text : String) : Except Address.ParseError Endpoint :=
  match Address.Reader.whole Address.Reader.endpoint text with
  | some endpoint => .ok endpoint
  | none => .error .notAnEndpoint

end DatagramLink

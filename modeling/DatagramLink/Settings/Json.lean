import DatagramLink.Address.Text
import DatagramLink.Binary32
import DatagramLink.Json
import DatagramLink.Settings
import DatagramLink.Text.Decimal

/-!
# JSON forms of settings and addresses

Settings are an object whose missing members keep their defaults and whose unknown members are
ignored, or an array of the members in order, which may stop early.  An address is `"Loopback"` or
`{"Ip": endpoint}`.
-/

namespace DatagramLink

namespace Json

/-- The part of a record that is its member `name` or, in the array form, stands at `index`. -/
def field? (record : Json) (name : String) (index : Nat) : Option Json :=
  match record with
  | .array values => values[index]?
  | record => record.member? name

/-- The field as `read` takes it, or the default where it is missing. -/
def fieldOr {α : Type} (record : Json) (name : String) (index : Nat) (default : α)
    (read : Json → Option α) : Option α :=
  match record.field? name index with
  | none => some default
  | some value => read value

def asString? : Json → Option String
  | .string text => some text
  | _ => none

def asBool? : Json → Option Bool
  | .bool value => some value
  | _ => none

/-- A whole number from zero to `limit`. -/
def asNat? (limit : Nat) : Json → Option Nat
  | .number n => n.toNat? limit
  | _ => none

def asFloat32? : Json → Option Float32
  | .number n => some n.toFloat32
  | _ => none

end Json

/-- The exact decimal form of a single-precision number; infinities and NaN have none. -/
def Numeral.ofFloat32? (x : Float32) : Option Numeral :=
  (Binary32.ofFloat32? x).map fun b =>
    if 0 ≤ b.exponent then
      ⟨b.negative, b.mantissa * Nat.pow 2 b.exponent.toNat, 0, false⟩
    else
      ⟨b.negative, b.mantissa * Nat.pow 5 b.exponent.natAbs, b.exponent, false⟩

namespace Settings

/-- Reads settings; `qport` is the identifier to use where none is given. -/
def ofJson? (qport : UInt16) (json : Json) : Option Settings :=
  let isRecord := match json with
    | .array values => values.length ≤ 9
    | .object _ => true
    | _ => false
  if !isRecord then
    none
  else do
    let defaults : Settings := { qport }
    let word (n : Nat) := UInt16.ofNat n
    let ip ← json.fieldOr "ip" 0 defaults.ip Json.asString?
    let port ← json.fieldOr "port" 1 defaults.port fun j => (j.asNat? 0xFFFF).map word
    let qport ← json.fieldOr "qport" 2 qport fun j => (j.asNat? 0xFFFF).map word
    let clientDelay ← json.fieldOr "client_packet_delay" 3 0 (Json.asNat? Text.maxUnsigned64)
    let serverDelay ← json.fieldOr "server_packet_delay" 4 0 (Json.asNat? Text.maxUnsigned64)
    let jitter ← json.fieldOr "packet_jitter" 5 0 (Json.asNat? Text.maxUnsigned64)
    let lossPercent ← json.fieldOr "drop_sim" 6 defaults.lossPercent Json.asFloat32?
    let showPackets ← json.fieldOr "show_packets" 7 false Json.asBool?
    let showDrops ← json.fieldOr "show_drop" 8 false Json.asBool?
    some { ip, port, qport, clientDelay, serverDelay, jitter, lossPercent, showPackets, showDrops }

/-- Whether a JSON form of settings names the identifier. -/
def namesQport : Json → Bool
  | .object members => members.any (·.1 == "qport")
  | _ => false

/-- The JSON form of settings.  An infinite percentage has none and is written as `null`. -/
def toJson (s : Settings) : Json :=
  .object [
    ("ip", .string s.ip),
    ("port", .ofNat s.port.toNat),
    ("qport", .ofNat s.qport.toNat),
    ("client_packet_delay", .ofNat s.clientDelay),
    ("server_packet_delay", .ofNat s.serverDelay),
    ("packet_jitter", .ofNat s.jitter),
    ("drop_sim", match Numeral.ofFloat32? s.lossPercent with
      | some n => .number n
      | none => .null),
    ("show_packets", .bool s.showPackets),
    ("show_drop", .bool s.showDrops)]

end Settings

/-- The side that a JSON text names. -/
def Side.ofJson? : Json → Option Side
  | .string "Client" => some .client
  | .string "Server" => some .server
  | .object [("Client", .null)] => some .client
  | .object [("Server", .null)] => some .server
  | _ => none

def Side.toJson : Side → Json
  | .client => .string "Client"
  | .server => .string "Server"

namespace Address

/-- Reads the JSON form of an address. -/
def ofJson? : Json → Option Address
  | .string "Loopback" => some .loopback
  | .object [("Loopback", .null)] => some .loopback
  | .object [("Ip", .string text)] =>
    match Endpoint.parse text with
    | .ok endpoint => some (.remote endpoint)
    | .error _ => none
  | _ => none

def toJson : Address → Json
  | .loopback => .string "Loopback"
  | .remote endpoint => .object [("Ip", .string endpoint.render)]

end Address
end DatagramLink

import DatagramLink.Binary32
import DatagramLink.CommandLine
import DatagramLink.Journal.Filter
import DatagramLink.Opening
import DatagramLink.Text.Fraction

/-!
# Programs

What the client program and the server program have in common: how they end, how they time their
frames, and the options of the simulated network.
-/

namespace DatagramLink

/-- How a program ends. -/
structure Outcome where
  exit : Nat
  stdout : String := ""
  stderr : String := ""
  deriving DecidableEq, Repr

namespace Program

/-- Reminds the user of the reports that are not shown. -/
def hint : String := "Set RUST_LOG=info for detailed logging\n"

def version : String := "0.1.0"

def failure (detail : String) : Outcome := { exit := 1, stderr := s!"Error: {detail}\n" }

/-- The end by a fault, which is the program's own. -/
def fault : Outcome := { exit := 101 }

/-- The end when the command line was not read to its end. -/
def stopped (name : String) : CommandLine.Stop → Outcome
  | .version => { exit := 0, stdout := s!"{name} {version}\n" }
  | .help => { exit := 0, stdout := s!"Usage: {name} [OPTIONS]\n" }
  | .invalid => { exit := 2, stderr := s!"Usage: {name} [OPTIONS]\n" }

/-- What a program says first: the warnings about the filter of its reports, or the reminder when
it was given none. -/
def preamble (filter : Option String) : String :=
  match filter with
  | none => hint
  | some text => String.join ((Filter.read text).1.map fun warning => warning.message ++ "\n")

/-- Puts what a program says first in front of the rest. -/
def withPreamble (filter : Option String) (outcome : Outcome) : Outcome :=
  { outcome with stderr := preamble filter ++ outcome.stderr }

/-! ## Time -/

/-- A quotient rounded to the nearest whole number; a half goes to the even neighbour. -/
def roundDiv (numerator denominator : Nat) : Nat :=
  let quotient := numerator / denominator
  let twice := 2 * (numerator % denominator)
  if twice < denominator then quotient
  else if denominator < twice then quotient + 1
  else quotient + quotient % 2

/-- Nanoseconds in a single-precision number of seconds below two. -/
def nanoseconds (seconds : Float32) : Nat :=
  match Binary32.ofFloat32? seconds with
  | some b => roundDiv (b.mantissa * 1000000000) (Nat.pow 2 b.exponent.natAbs)
  | none => 0

/-- Nanoseconds between frames, at a number of frames a second.  A rate so high that less than half
a nanosecond is left has the period zero. -/
def framePeriod (rate : Nat) : Nat :=
  nanoseconds (1 / (UInt32.ofNat (max rate 1)).toFloat32)

/-! ## Options -/

/-- The options of the simulated network, and what to report. -/
structure Simulation where
  delay : Nat := 0
  jitter : Nat := 0
  lossPercent : Float32 := 0
  showPackets : Bool := false
  showDrops : Bool := false

/-- A number of at most 64 bits, as an option takes it. -/
def word? (text : String) : Option Nat := Text.unsigned? Text.maxUnsigned64 text

/-- A number of at most `limit`, which has fewer bits, as an option takes it: minus zero is zero. -/
def small? (limit : Nat) (text : String) : Option Nat :=
  (Text.signed? (-Text.maxSigned64 - 1) Text.maxSigned64 text).bind fun value =>
    if 0 ≤ value ∧ value ≤ limit then some value.toNat else none

/-- The options of the simulated network, for settings that hold a simulation. -/
def simulationOptions {σ : Type} (change : (Simulation → Simulation) → σ → σ) :
    List (CommandLine.Opt σ) := [
  { long := "packet-delay", short := some 'l', action := .value fun text settings =>
      (word? text).map fun delay => change ({ · with delay }) settings },
  { long := "jitter", short := some 'j', action := .value fun text settings =>
      (word? text).map fun jitter => change ({ · with jitter }) settings },
  { long := "drop-sim", short := some 'd', action := .value fun text settings =>
      (Text.float32? text).map fun lossPercent => change ({ · with lossPercent }) settings },
  { long := "show-packets", action := .switch (change ({ · with showPackets := true })) },
  { long := "show-drop", action := .switch (change ({ · with showDrops := true })) },
  { long := "help", short := some 'h', action := .help },
  { long := "version", short := some 'V', action := .version }]

end Program
end DatagramLink

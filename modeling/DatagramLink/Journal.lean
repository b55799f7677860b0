/-!
# Journal

Everything that works through a hub reports what it does as records, in order.
-/

namespace DatagramLink

/-- How much a record matters. -/
inductive Level where
  | debug
  | info
  | warn
  | error
  deriving DecidableEq, Repr

def Level.name : Level → String
  | .debug => "DEBUG"
  | .info => "INFO"
  | .warn => "WARN"
  | .error => "ERROR"

/-- One reported line. -/
structure Record where
  level : Level
  text : String
  deriving DecidableEq, Repr

namespace Record

def debug (text : String) : Record := ⟨.debug, text⟩
def info (text : String) : Record := ⟨.info, text⟩
def warn (text : String) : Record := ⟨.warn, text⟩

/-- A record as a line: its level and its text. -/
def render (r : Record) : String := r.level.name ++ " " ++ r.text

end Record
end DatagramLink

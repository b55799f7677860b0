/-!
# Command lines

Options and their values, read from left to right.  An option has a long name and may have a letter:
`--name value`, `--name=value`, `-n value`, `-nvalue` and `-n=value` all give it a value, and
letters without values may share one dash.  A value that starts with a dash has to be attached.

An option may be given once, unless it repeats.  The first thing that cannot be read ends the
reading, and so do requests for help and for the version.
-/

namespace DatagramLink
namespace CommandLine

/-- What giving an option does to settings of type `σ`. -/
inductive Action (σ : Type) where
  /-- Takes no value. -/
  | switch (set : σ → σ)
  /-- Takes a value that it may refuse. -/
  | value (set : String → σ → Option σ)
  /-- Ends the reading with the version. -/
  | version
  /-- Ends the reading with a description of the options. -/
  | help

/-- An option of a command line. -/
structure Opt (σ : Type) where
  long : String
  short : Option Char := none
  repeats : Bool := false
  action : Action σ

/-- Why a command line was not read to its end. -/
inductive Stop where
  | version
  | help
  /-- Something cannot be read. -/
  | invalid
  deriving DecidableEq, Repr

/-- What was read so far: the settings, and the long names of the options given. -/
structure State (σ : Type) where
  settings : σ
  seen : List String := []

variable {σ : Type}

/-- Gives an option, with a value where it takes one. -/
def give (opt : Opt σ) (value : Option String) (s : State σ) : Except Stop (State σ) :=
  match opt.action, value with
  | .version, none => .error .version
  | .help, none => .error .help
  | .switch set, none =>
    if s.seen.contains opt.long then
      .error .invalid
    else
      .ok ⟨set s.settings, opt.long :: s.seen⟩
  | .value set, some value =>
    if s.seen.contains opt.long && !opt.repeats then
      .error .invalid
    else
      match set value s.settings with
      | some settings => .ok ⟨settings, opt.long :: s.seen⟩
      | none => .error .invalid
  | _, _ => .error .invalid

def takesValue (opt : Opt σ) : Bool :=
  match opt.action with
  | .value _ => true
  | _ => false

/-- Whether an argument can stand as the value of the option before it: it does not start with a
dash, or it is a dash alone. -/
def isPlain (argument : String) : Bool :=
  match argument.toList with
  | ['-'] => true
  | '-' :: _ => false
  | _ => true

/-- Gives an option the value that is attached to it or else the next argument, and returns the
arguments that are left. -/
def giveValue (opt : Opt σ) (attached : Option String) (rest : List String) (s : State σ) :
    Except Stop (List String × State σ) :=
  match attached, rest with
  | some value, rest => (give opt (some value) s).map (rest, ·)
  | none, value :: rest =>
    if isPlain value then (give opt (some value) s).map (rest, ·) else .error .invalid
  | none, [] => .error .invalid

/-- What is attached to a long name: the part behind the first equals sign. -/
def splitAttached (chars : List Char) : String × Option String :=
  match chars.dropWhile (· != '=') with
  | [] => (String.ofList chars, none)
  | _ :: value => (String.ofList (chars.takeWhile (· != '=')), some (String.ofList value))

/-- Reads an argument that starts with two dashes. -/
def readLong (options : List (Opt σ)) (chars : List Char) (rest : List String) (s : State σ) :
    Except Stop (List String × State σ) :=
  match splitAttached chars with
  | (name, attached) =>
    match options.find? (·.long == name) with
    | none => .error .invalid
    | some opt =>
      if takesValue opt then
        giveValue opt attached rest s
      else
        (give opt attached s).map (rest, ·)

/-- What is attached to a letter: the rest of its argument, without an equals sign in front. -/
def attachedToLetter : List Char → Option String
  | [] => none
  | '=' :: value => some (String.ofList value)
  | value => some (String.ofList value)

def readLetters (options : List (Opt σ)) (rest : List String) :
    List Char → State σ → Except Stop (List String × State σ)
  | [], s => .ok (rest, s)
  | letter :: letters, s =>
    match options.find? (·.short == some letter) with
    | none => .error .invalid
    | some opt =>
      if takesValue opt then
        giveValue opt (attachedToLetter letters) rest s
      else
        match give opt none s with
        | .error stop => .error stop
        | .ok s => readLetters options rest letters s

/-- Reads one argument, and its value where that is the next one.  Only options are known: an
argument that is none cannot be read. -/
def readOne (options : List (Opt σ)) (argument : String) (rest : List String) (s : State σ) :
    Except Stop (List String × State σ) :=
  match argument.toList with
  | ['-'] => .error .invalid
  | ['-', '-'] => if rest.isEmpty then .ok ([], s) else .error .invalid
  | '-' :: '-' :: chars => readLong options chars rest s
  | '-' :: letters => readLetters options rest letters s
  | _ => .error .invalid

theorem eq_of_map_ok {e : Except Stop (State σ)} {rest left : List String} {t : State σ}
    (h : e.map (rest, ·) = .ok (left, t)) : left = rest := by
  cases e <;> simp_all [Except.map]

theorem length_giveValue {opt : Opt σ} {attached : Option String} {rest left : List String}
    {s t : State σ} (h : giveValue opt attached rest s = .ok (left, t)) :
    left.length ≤ rest.length := by
  unfold giveValue at h
  split at h
  · exact Nat.le_of_eq (congrArg List.length (eq_of_map_ok h))
  · split at h
    · exact Nat.le_succ_of_le (Nat.le_of_eq (congrArg List.length (eq_of_map_ok h)))
    · cases h
  · cases h

theorem length_readLetters {options : List (Opt σ)} {rest left : List String}
    {letters : List Char} {s t : State σ}
    (h : readLetters options rest letters s = .ok (left, t)) : left.length ≤ rest.length := by
  induction letters generalizing s with
  | nil =>
      cases h
      exact Nat.le_refl _
  | cons letter letters ih =>
      unfold readLetters at h
      split at h
      · cases h
      · split at h
        · exact length_giveValue h
        · split at h
          · cases h
          · exact ih h

/-- Reading never returns more arguments than follow. -/
theorem length_readOne {options : List (Opt σ)} {argument : String} {rest left : List String}
    {s t : State σ} (h : readOne options argument rest s = .ok (left, t)) :
    left.length ≤ rest.length := by
  unfold readOne at h
  split at h
  · cases h
  · split at h
    · cases h
      exact Nat.zero_le _
    · cases h
  · unfold readLong at h
    split at h
    · split at h
      · cases h
      · split at h
        · exact length_giveValue h
        · exact Nat.le_of_eq (congrArg List.length (eq_of_map_ok h))
  · exact length_readLetters h
  · cases h

def readAll (options : List (Opt σ)) : List String → State σ → Except Stop (State σ)
  | [], s => .ok s
  | argument :: rest, s =>
    match _h : readOne options argument rest s with
    | .error stop => .error stop
    | .ok (left, s) => readAll options left s
termination_by arguments => arguments.length
decreasing_by
  have hlen := length_readOne _h
  simp only [List.length_cons]
  omega

/-- Reads a command line on top of default settings. -/
def read (options : List (Opt σ)) (defaults : σ) (arguments : List String) : Except Stop σ :=
  (readAll options arguments ⟨defaults, []⟩).map (·.settings)

end CommandLine
end DatagramLink

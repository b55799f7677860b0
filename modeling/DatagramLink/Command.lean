import DatagramLink.Header
import DatagramLink.Text.Blank
import DatagramLink.Text.Utf8

/-!
# Connectionless commands

A connectionless datagram carries a line of words: the name of a command and its arguments.  Words
are separated by blanks; a word that starts with a double quote runs to the next one and may hold
blanks or nothing.  Printing puts quotes around the arguments that need them.
-/

namespace DatagramLink

/-- A command word and its arguments. -/
structure Command where
  name : String
  args : List String := []
  deriving DecidableEq, Repr

namespace Command

def withArg (command : Command) (arg : String) : Command :=
  { command with args := command.args ++ [arg] }

/-- Adds a number as an argument at the end. -/
def withNat (command : Command) (arg : Nat) : Command :=
  command.withArg (toString arg)

def arg? (command : Command) (index : Nat) : Option String := command.args[index]?

/-! ## Reading -/

/-- The rest of a quoted word after its opening quote, and what follows the closing one.  A missing
closing quote is supplied at the end of the text. -/
def quotedWord (chars : List Char) : List Char × List Char :=
  (chars.takeWhile (· != '"'), (chars.dropWhile (· != '"')).drop 1)

/-- A word without an opening quote, and what follows it. -/
def plainWord (chars : List Char) : List Char × List Char :=
  (chars.takeWhile (!Text.isBlank ·), chars.dropWhile (!Text.isBlank ·))

def words (chars : List Char) : List (List Char) :=
  match _h : chars.dropWhile Text.isBlank with
  | [] => []
  | '"' :: rest =>
    let word := quotedWord rest
    word.1 :: words word.2
  | first :: rest =>
    let word := plainWord (first :: rest)
    word.1 :: words word.2
termination_by chars.length
decreasing_by
  · have hlen := (List.dropWhile_sublist Text.isBlank (l := chars)).length_le
    have hword := (List.dropWhile_sublist (· != '"') (l := rest)).length_le
    rw [_h] at hlen
    simp only [quotedWord, List.length_drop, List.length_cons] at *
    omega
  · have hlen := (List.dropWhile_sublist Text.isBlank (l := chars)).length_le
    have hfirst : Text.isBlank first = false := by
      have hhead := List.head_dropWhile_not Text.isBlank (l := chars) (by simp [_h])
      simpa [_h] using hhead
    have hword := (List.dropWhile_sublist (!Text.isBlank ·) (l := rest)).length_le
    rw [_h] at hlen
    simp only [plainWord, List.dropWhile_cons, hfirst, Bool.not_false, if_true,
      List.length_cons] at *
    omega

/-- Reads a line; a line of blanks holds no command. -/
def parse? (text : String) : Option Command :=
  match (words text.toList).map String.ofList with
  | [] => none
  | name :: args => some ⟨name, args⟩

/-- Reads the command of a connectionless datagram; bytes that are no text are replaced. -/
def ofDatagram? (datagram : ByteArray) : Option Command :=
  (connectionlessPayload datagram).bind fun payload => parse? (Text.Utf8.lossy payload)

/-! ## Printing -/

/-- Whether an argument is printed with quotes: it is empty or holds a blank. -/
def needsQuotes (arg : String) : Bool := arg.isEmpty || arg.toList.any Text.isBlank

/-- An argument behind the blank that separates it. -/
def renderArg (arg : String) : String :=
  if needsQuotes arg then " \"" ++ arg ++ "\"" else " " ++ arg

def render (command : Command) : String :=
  command.name ++ String.join (command.args.map renderArg)

instance : ToString Command := ⟨render⟩

/-- The connectionless datagram that carries a text. -/
def datagramOfText (text : String) : ByteArray := connectionless text.toUTF8

/-- The connectionless datagram that carries a command. -/
def toDatagram (command : Command) : ByteArray := datagramOfText command.render

end Command
end DatagramLink

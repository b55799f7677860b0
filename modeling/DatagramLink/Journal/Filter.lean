import DatagramLink.Journal
import DatagramLink.Text.Pattern

/-!
# Journal filters

Which records are shown.  A filter is read from a text such as `warn,server=debug/timed out`:
directives with commas between them and, behind a slash, a pattern.  A directive is a level, a part
of the program, or a part and its level with an equals sign between them.  The pattern is only
checked: records are shown whether they match it or not.

Reading never fails.  What cannot be read is ignored, with a warning for each such piece.
-/

namespace DatagramLink

/-- The least level that is shown, or nothing where no record is. -/
abbrev Threshold := Option Level

/-- What is shown of a part of the program, or of all of it. -/
structure Directive where
  part : Option String
  threshold : Threshold
  deriving DecidableEq, Repr

/-- Which records are shown. -/
structure Filter where
  directives : List Directive := []
  deriving DecidableEq, Repr

namespace Filter

/-- A piece of a filter's text that is ignored. -/
inductive Warning where
  /-- The whole text has a third part. -/
  | tooManySlashes (text : String)
  /-- A directive, or the level of one. -/
  | directive (text : String)
  /-- The second part, which cannot be used as a pattern. -/
  | pattern (text : String) (problem : Text.Pattern.Problem)
  deriving DecidableEq, Repr

/-- The line about a piece that is ignored. -/
def Warning.message : Warning → String
  | .tooManySlashes text =>
    s!"warning: invalid logging spec '{text}', ignoring it (too many '/'s)"
  | .directive text => s!"warning: invalid logging spec '{text}', ignoring it"
  | .pattern text problem => s!"warning: invalid regex filter - {problem.message text}"

def everything : Threshold := some .debug

/-- Reads the name of a level, in either case. -/
def threshold? (name : String) : Option Threshold :=
  match String.ofList (name.toList.map Char.toLower) with
  | "off" => some none
  | "error" => some (some .error)
  | "warn" => some (some .warn)
  | "info" => some (some .info)
  | "debug" | "trace" => some everything
  | _ => none

/-- A text without the blanks around it. -/
def trim (text : String) : String :=
  String.ofList
    ((text.toList.dropWhile Text.isBlank).reverse.dropWhile Text.isBlank).reverse

/-- Reads a directive that has no blanks around it. -/
def readDirective (text : String) : Except Warning Directive :=
  match text.splitToList (· == '=') with
  | [name] =>
    match threshold? name with
    | some threshold => .ok ⟨none, threshold⟩
    | none => .ok ⟨some name, everything⟩
  | [part, level] =>
    if (trim level).isEmpty then
      .ok ⟨some part, everything⟩
    else
      match threshold? (trim level) with
      | some threshold => .ok ⟨some part, threshold⟩
      | none => .error (.directive (trim level))
  | _ => .error (.directive text)

/-- Reads directives with commas between them; empty ones say nothing. -/
def readDirectives (text : String) : List (Except Warning Directive) :=
  (((text.splitToList (· == ',')).map trim).filter (!·.isEmpty)).map readDirective

def accepted (results : List (Except Warning Directive)) : List Directive :=
  results.filterMap Except.toOption

def refused (results : List (Except Warning Directive)) : List Warning :=
  results.filterMap fun
    | .ok _ => none
    | .error warning => some warning

def read (text : String) : List Warning × Filter :=
  match text.splitToList (· == '/') with
  | [directives] =>
    (refused (readDirectives directives), ⟨accepted (readDirectives directives)⟩)
  | [directives, pattern] =>
    (refused (readDirectives directives) ++
        (Text.Pattern.problem? pattern).toList.map (Warning.pattern pattern),
      ⟨accepted (readDirectives directives)⟩)
  | _ => ([.tooManySlashes text], {})

def weight : Level → Nat
  | .debug => 0
  | .info => 1
  | .warn => 2
  | .error => 3

/-- Whether a filter shows records of a level in some part of the program.  Without directives only
errors are shown. -/
def shows (f : Filter) (level : Level) : Bool :=
  if f.directives.isEmpty then
    level == .error
  else
    f.directives.any fun directive => directive.threshold.any (weight · ≤ weight level)

end Filter
end DatagramLink

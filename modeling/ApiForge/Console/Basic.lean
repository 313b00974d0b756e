import ApiForge.Console.Markup
import ApiForge.Failure
import ApiForge.Json.Writer
import ApiForge.Text.Keyed

/-!
# The console

Results go to the output and everything that is said about them to the
diagnostics. What is said can be quieted, errors and warnings apart. Without
colour a notice is its marker and its text; with colour it is markup, of which a
stream that is no terminal shows the text alone.
-/

namespace ApiForge

/-- What a run has printed. -/
structure Printed where
  output : Text
  diagnostics : Text
  deriving DecidableEq, Repr

namespace Printed

def nothing : Printed :=
  ⟨[], []⟩

def append (first second : Printed) : Printed :=
  ⟨first.output ++ second.output, first.diagnostics ++ second.diagnostics⟩

instance : Append Printed := ⟨append⟩

end Printed

inductive Format where
  | auto
  | json
  | plain
  | rich
  deriving DecidableEq, Repr

def Format.name : Format → Text
  | .auto => "auto"
  | .json => "json"
  | .plain => "plain"
  | .rich => "rich"

inductive Notice where
  | info
  | success
  | warning
  | error
  | suggestion
  | debug
  deriving DecidableEq, Repr

namespace Notice

def marker : Notice → Text
  | .info => []
  | .success => []
  | .warning => "Warning: "
  | .error => "Error: "
  | .suggestion => "→ "
  | .debug => "[debug] "

/-- The notice as markup; an error is none, so that brackets in it stay. -/
def markup? (notice : Notice) (message : Text) : Option Text :=
  match notice with
  | .info => some message
  | .success => some ("[green]" ++ message ++ "[/green]")
  | .warning => some ("[yellow]Warning:[/yellow] " ++ message)
  | .error => none
  | .suggestion => some ("[dim]→ " ++ message ++ "[/dim]")
  | .debug => some ("[dim]\\[debug] " ++ message ++ "[/dim]")

end Notice

structure Console where
  format : Format
  isColorless : Bool
  isQuiet : Bool
  isVerbose : Bool
  deriving DecidableEq, Repr

namespace Console

/-- The environment asks for no colour. -/
def forbidsColor (environment : List (Text × Text)) : Bool :=
  (Keyed.find? "NO_COLOR" environment).isSome || Keyed.find? "TERM" environment == some "dumb".toList

/-- The format in which results are shown: one that is left open depends on where they go. -/
def resolve (format : Format) (isColorless isTerminal : Bool) : Format :=
  match format with
  | .auto => if isTerminal && !isColorless then .rich else .plain
  | format => format

def make (format : Format) (isColorless isQuiet isVerbose : Bool)
    (environment : List (Text × Text)) (isTerminal : Bool) : Console :=
  let isColorless := isColorless || forbidsColor environment
  { format := resolve format isColorless isTerminal, isColorless, isQuiet, isVerbose }

def shows (console : Console) : Notice → Bool
  | .warning => true
  | .error => true
  | .debug => console.isVerbose
  | _ => !console.isQuiet

/-- The line that a notice is shown as; markup that closes what is not open is not foreseen. -/
def line (console : Console) (notice : Notice) (message : Text) : Except Abort Text :=
  if console.isColorless then .ok (notice.marker ++ message)
  else
    match notice.markup? message with
    | none => .ok (notice.marker ++ message)
    | some markup =>
        match Markup.plain? markup with
        | some text => .ok text
        | none => .error .unforeseen

/-- Says something, if it is to be heard. -/
def notify (console : Console) (notice : Notice) (message : Text) : Except Abort Printed :=
  if console.shows notice then
    (console.line notice message).map fun line => ⟨[], line ++ ['\n']⟩
  else .ok .nothing

/-- Prints a result. -/
def printText (text : Text) : Printed :=
  ⟨text ++ ['\n'], []⟩

/-- Prints a result as an indented document. -/
def printRecord (value : Value) : Printed :=
  printText ((Json.indented? value).getD [])

/-- The level of the messages that are logged: all, those of errors only, or from warnings on. -/
def logLevel (isVerbose isQuiet : Bool) : Nat :=
  if isVerbose then 10 else if isQuiet then 40 else 30

end Console

end ApiForge

import ApiForge.Command.DataFolder
import ApiForge.Command.Inspect
import ApiForge.Command.List

/-!
# The program

A run of the program reads its arguments, does what they ask for and ends with
an exit code. A failure is told and ends with its own code; what nobody foresaw
is noted in a log.
-/

namespace ApiForge

/-- How a run ended and the traces it left. -/
structure Outcome where
  exitCode : Int
  session : Session

/-- How the work of a run ends. -/
inductive Ending where
  | finished
  | aborted (abort : Abort)
  | cancelled
  | left (exitCode : Int)

namespace Program

def versionLine : Text :=
  "apimapper 1.0.0"

def usage : Text :=
  Text.lines
    ["Usage: apimapper [--version] [--json] [--no-color] [-q|--quiet] [-v|--verbose] COMMAND",
      "",
      "  generate SOURCE [-o|--output DIR] [-n|--name NAME] [--docs-only] [--docs|--no-docs]",
      "                  [--timeout SECONDS] [--dereference|--no-dereference]",
      "  list [-o|--output DIR]",
      "  inspect SOURCE [--timeout SECONDS] [--dereference|--no-dereference]"]

/-- Adds a line to the diagnostics. -/
def withDiagnostic (session : Session) (line : Text) : Session :=
  { session with printed := session.printed ++ ⟨[], line ++ ['\n']⟩ }

def withOutput (session : Session) (text : Text) : Session :=
  { session with printed := session.printed ++ Console.printText text }

/-- Tells an error. -/
def withError (session : Session) (message : Text) : Session :=
  withDiagnostic session (Notice.error.marker ++ message)

/-- The name of the log of a crash at a moment. -/
def logName (moment : Moment) : Text :=
  "crash-" ++ moment.date.spell.filter (· != '-') ++ "-" ++
    Text.padded 2 moment.hour ++ Text.padded 2 moment.minute ++ Text.padded 2 moment.second ++
    ".log"

def logText : Text :=
  "The input has a shape that nothing is prepared for.\n"

/-- Notes a crash in a log and tells where the log is; nothing is told if no log can be made. -/
def crash (surroundings : Surroundings) (session : Session) : Outcome :=
  let log := (DataFolder.logs surroundings.system surroundings.environment).child
    (logName surroundings.now)
  match DataFolder.ensureLogs surroundings.system surroundings.environment session.run with
  | (run, some _) => ⟨1, { session with run }⟩
  | (run, none) =>
      match run.attemptAll .never (Run.writing log logText) with
      | (run, some _) => ⟨1, { session with run }⟩
      | (run, none) =>
          ⟨1, withError { session with run }
            ("Unexpected error. Debug log: " ++ log.spell)⟩

/-- Ends a run. -/
def conclude (surroundings : Surroundings) (session : Session) : Ending → Outcome
  | .finished => ⟨0, session⟩
  | .aborted (.failed failure) => ⟨failure.exitCode, withError session failure.message⟩
  | .aborted _ => crash surroundings session
  | .cancelled => ⟨130, withDiagnostic session "\nCancelled."⟩
  | .left exitCode => ⟨exitCode, session⟩

/-- The console that the options ask for. -/
def consoleFor (surroundings : Surroundings) (options : GlobalOptions) : Console :=
  .make (if options.json then .json else .auto) options.isColorless options.isQuiet
    options.isVerbose surroundings.environment surroundings.isTerminal

def perform (surroundings : Surroundings) (console : Console) : Request → Command Unit
  | .generate options => Command.generate surroundings console options
  | .list outputRoot => Command.list surroundings console outputRoot
  | .inspect options => Command.inspect surroundings console options

/-- Does what is asked for. -/
def answer (surroundings : Surroundings) (session : Session) : Invocation → Outcome
  | .version => ⟨0, withOutput session versionLine⟩
  | .help => ⟨0, withOutput session usage⟩
  | .misuse => ⟨2, withDiagnostic session usage⟩
  | .request options request =>
      match perform surroundings (consoleFor surroundings options) request session with
      | (.ok _, session) => conclude surroundings session .finished
      | (.error abort, session) => conclude surroundings session (.aborted abort)

/-- A run with these arguments. -/
def run (surroundings : Surroundings) (disk : Disk) (arguments : List Text) : Outcome :=
  answer surroundings (.start disk) (.read arguments)

end Program

end ApiForge

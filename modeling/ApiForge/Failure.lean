import ApiForge.Json.Fault
import ApiForge.Record.Fault
import ApiForge.Yaml.Fault

/-!
# Failures

Why no client could be made. Every failure has a message for the user and an
exit code that tells scripts which stage it belongs to.
-/

namespace ApiForge

/-- Why a reference leads nowhere. -/
inductive ReferenceFault where
  | external
  | noKey (key : Text)
  | badIndex (segment : Text)
  | notContainer (kind : Text)
  | circular
  | absent
  | other (reason : Text)
  deriving DecidableEq, Repr

def ReferenceFault.message : ReferenceFault → Text
  | .external => "only internal references (#/...) are supported"
  | .noKey key => "key '" ++ key ++ "' not found"
  | .badIndex segment => "invalid array index '" ++ segment ++ "'"
  | .notContainer kind => "cannot navigate into " ++ kind
  | .circular => "circular reference"
  | .absent => "target not found"
  | .other reason => reason

/-- Why a text is no API description. -/
inductive DocumentFault where
  | empty
  | unreadable (json : Option Json.Fault) (yaml : Yaml.Fault)
  | notAnObject (kind : Text)
  | unmarked
  | other (message : Text)
  deriving DecidableEq, Repr

def DocumentFault.message : DocumentFault → Text
  | .empty => "Empty document"
  | .unreadable json yaml =>
      "Could not parse document as JSON or YAML" ++
        (match json with
        | some fault => "\n  JSON error: " ++ fault.message
        | none => []) ++
        "\n  YAML error: " ++ yaml.message
  | .notAnObject kind => "Document must be a JSON/YAML object (got " ++ kind ++ ")"
  | .unmarked => "Document has no 'openapi: 3.x' or 'swagger: 2.x' field"
  | .other message => message

/-- Why the settings cannot be used. -/
inductive SettingsFault where
  | unreadableFile (path reason : Text)
  | fileNotAnObject (path : Text)
  | badTimeout (value : Text)
  | badFields (faults : List FieldFault)
  | other (message : Text)
  deriving DecidableEq, Repr

/-- One line for the place and one for the cause of every fault. -/
def FieldFault.report (faults : List FieldFault) : Text :=
  Text.lines (faults.flatMap fun fault =>
    [Text.join "." fault.location, "  " ++ fault.cause.message])

def SettingsFault.message : SettingsFault → Text
  | .unreadableFile path reason => "Invalid project config at " ++ path ++ ": " ++ reason
  | .fileNotAnObject path => "Invalid project config at " ++ path ++ ": expected a JSON object"
  | .badTimeout value => "APIMAPPER_TIMEOUT must be a number, got '" ++ value ++ "'"
  | .badFields faults => "Invalid configuration: " ++ FieldFault.report faults
  | .other message => message

/-- Why the artifacts could not be stored. -/
inductive OutputFault where
  | badName (name : Text)
  | noRoot (root reason : Text)
  | unwritable (target reason : Text)
  | other (message : Text)
  deriving DecidableEq, Repr

def OutputFault.message : OutputFault → Text
  | .badName name => "Invalid output name '" ++ name ++ "': must be a single directory name"
  | .noRoot root reason => "Cannot create output directory " ++ root ++ ": " ++ reason
  | .unwritable target reason => "Cannot write artifacts to " ++ target ++ ": " ++ reason
  | .other message => message

/-- A search that found no description: where it began, where it looked and why each look failed. -/
structure SearchReport where
  url : Text
  origin : Text
  attempted : List Text
  reasons : List Text
  deriving DecidableEq, Repr

namespace SearchReport

/-- One numbered line for each look, with its reason if one is known. -/
def attemptLines (number : Nat) : List Text → List Text → List Text
  | [], _ => []
  | url :: urls, reasons =>
      let reason := reasons.headD []
      let note : Text := if reason.isEmpty then [] else " (" ++ reason ++ ")"
      ("  " ++ Text.ofNat number ++ ". " ++ url ++ note) :: attemptLines (number + 1) urls reasons.tail

/-- The lines above the attempts. -/
def opening (report : SearchReport) : List Text :=
  ["Could not find an OpenAPI specification.",
    "",
    "Start URL: " ++ report.url,
    "Probed origin: " ++ report.origin,
    "Tried:"]

/-- The lines below the attempts. -/
def advice : List Text :=
  ["",
    "Make sure the URL points to an OpenAPI 3.x or Swagger 2.x document, " ++
      "or that the API exposes one at a conventional location."]

def message (report : SearchReport) : Text :=
  Text.lines (report.opening ++ attemptLines 1 report.attempted report.reasons ++ advice)

end SearchReport

inductive Failure where
  | general (message : Text)
  | settings (cause : SettingsFault)
  | unreachable (url reason : Text) (status : Option Nat)
  | unusable (cause : DocumentFault)
  | invalid (message : Text)
  | notFound (report : SearchReport)
  | duplicateOperation (identifier first second : Text)
  | unresolvable (reference : Text) (cause : ReferenceFault)
  | collision (kind identifier first second : Text)
  | output (cause : OutputFault)
  deriving DecidableEq, Repr

namespace Failure

def message : Failure → Text
  | .general message => message
  | .settings cause => cause.message
  | .unreachable url reason _ => "Could not fetch " ++ url ++ ": " ++ reason
  | .unusable cause => cause.message
  | .invalid message => message
  | .notFound report => report.message
  | .duplicateOperation identifier first second =>
      "Duplicate operation id '" ++ identifier ++ "': " ++ first ++ " and " ++ second ++
        " resolve to the same identifier"
  | .unresolvable reference cause =>
      "Cannot resolve $ref '" ++ reference ++ "': " ++ cause.message
  | .collision kind identifier first second =>
      kind ++ " names '" ++ first ++ "' and '" ++ second ++ "' both render as '" ++
        identifier ++ "'"
  | .output cause => cause.message

/-- The exit code that a failure ends the program with. -/
def exitCode : Failure → Int
  | .general _ => 1
  | .settings _ => 2
  | .notFound _ => 4
  | .unreachable .. => 6
  | .unusable _ => 7
  | .invalid _ => 7
  | .duplicateOperation .. => 8
  | .unresolvable .. => 8
  | .collision .. => 8
  | .output _ => 1

end Failure

/-- How a computation ends without a result: with a failure that is reported, with a record whose
fields do not fit, or because the input is of a shape that nothing is prepared for. -/
inductive Abort where
  | failed (failure : Failure)
  | malformed (faults : List FieldFault)
  | unforeseen
  deriving DecidableEq, Repr

end ApiForge

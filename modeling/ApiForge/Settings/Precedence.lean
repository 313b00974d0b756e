import ApiForge.Files.Disk
import ApiForge.Json.Reader
import ApiForge.Record.Settings

/-!
# Precedence

Settings are chosen on the command line, in the environment or in the project's
file, in this order; a setting that nobody chooses is as usual.
-/

namespace ApiForge.Settings

def projectFile : Text :=
  "apimapper.json"

/-- The settings of the project in the current folder. -/
def ofProject (disk : Disk) : Except Abort Entries := do
  let path := disk.current.child projectFile
  match ← disk.readText? path with
  | none => pure []
  | some text =>
      match Json.read text with
      | .ok (.map entries) => pure entries
      | .ok _ => throw (.failed (.settings (.fileNotAnObject path.spell)))
      | .error fault =>
          if fault.cause = .numeralTooLong then throw .unforeseen
          else throw (.failed (.settings (.unreadableFile path.spell fault.message)))

/-- A variable of the environment that says something. -/
def spoken? (environment : List (Text × Text)) (name : Text) : Option Text :=
  (Keyed.find? name environment).filter fun value => !value.isEmpty

/-- The settings in the environment. -/
def ofEnvironment (environment : List (Text × Text)) : Except Abort Entries := do
  let outputRoot : Entries :=
    match spoken? environment "APIMAPPER_OUTPUT_DIR" with
    | some root => [(.str "output_dir", .str root)]
    | none => []
  match spoken? environment "APIMAPPER_TIMEOUT" with
  | none => pure outputRoot
  | some text =>
      match Numeral.float? text with
      | some number => pure (outputRoot ++ [(.str "timeout", .float number)])
      | none => throw (.failed (.settings (.badTimeout text)))

/-- The choices, where those that come later win. -/
def overlay (choices : List Entries) : Entries :=
  Entries.ofList choices.flatten

/-- The settings of a run; `chosen` are those of the command line. -/
def resolve (disk : Disk) (environment : List (Text × Text)) (chosen : Entries) :
    Except Abort Settings := do
  let project ← ofProject disk
  let surrounding ← ofEnvironment environment
  match read (.map (overlay [project, surrounding, chosen])) with
  | .ok settings => pure settings
  | .error faults => throw (.failed (.settings (.badFields faults)))

end ApiForge.Settings

import ApiForge.Files.Change

/-!
# The data folder

What the program keeps for itself is in a folder of the user's: the shared place
for data where the system has one, and a hidden folder of its own elsewhere.
-/

namespace ApiForge.DataFolder

def programName : Text :=
  "apimapper"

/-- The user's own folder. -/
def home (environment : List (Text × Text)) : Path :=
  match Keyed.find? "HOME" environment with
  | some folder =>
      let folder := Text.dropEnd (· == '/') folder
      .ofText (if folder.isEmpty then ['/'] else folder)
  | none => .ofText ['/']

/-- The system has a shared place for data. -/
def hasSharedPlace (system : Text) : Bool :=
  system == "Linux".toList || system.endsWith "BSD"

/-- The shared place for data. -/
def sharedPlace (environment : List (Text × Text)) : Path :=
  match (Keyed.find? "XDG_DATA_HOME" environment).filter fun value => !value.isEmpty with
  | some folder => .ofText folder
  | none => ((home environment).child ".local").child "share"

/-- The data folder of a system. -/
def path (system : Text) (environment : List (Text × Text)) : Path :=
  if hasSharedPlace system then (sharedPlace environment).child programName
  else (home environment).child ("." ++ programName)

/-- The folder of the logs. -/
def logs (system : Text) (environment : List (Text × Text)) : Path :=
  (path system environment).child "logs"

/-- Makes sure of the data folder and the folder of the logs. -/
def ensureLogs (system : Text) (environment : List (Text × Text)) (run : Run) :
    Run × Option FileFault :=
  match run.ensureFolder .never (path system environment) with
  | (run, some fault) => (run, some fault)
  | (run, none) => run.ensureFolder .never (logs system environment)

end ApiForge.DataFolder

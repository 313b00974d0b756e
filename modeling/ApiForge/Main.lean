import ApiForge.Command.Program

/-!
# The command line

Gathers what a run of the program finds around it, lets the run come to its
outcome, and makes the changes of the outcome on the system's own files. A change
that the system refuses is told to the run, which then comes to another outcome
from there on.
-/

namespace ApiForge.CommandLine

def textOf (value : String) : Text :=
  value.toList

def stringOf (text : Text) : String :=
  String.ofList text

/-- The variables that a run may ask for. -/
def variableNames : List String :=
  ["HOME", "XDG_DATA_HOME", "NO_COLOR", "TERM", "APIMAPPER_OUTPUT_DIR", "APIMAPPER_TIMEOUT"]

def environment : IO (List (Text × Text)) :=
  variableNames.filterMapM fun name => do
    return (← IO.getEnv name).map fun value => (textOf name, textOf value)

/-- The time now, as the system notes it for a new file. -/
def now : IO Moment := do
  let (_, file) ← IO.FS.createTempFile
  let noted := (← file.metadata).modified
  IO.FS.removeFile file
  return .ofSecondsSince1970 noted.sec.toNat (noted.nsec.toNat / 1000)

/-- Eight digits by chance. -/
def token : IO Text := do
  return Text.padded 8 (← IO.rand 0 99999999)

/-- Copies what is at a path of the system to the same path of a disk. -/
def copyNode (disk : Disk) (path : Path) : IO Disk := do
  let file := (← IO.currentDir) / stringOf path.spell
  if ← file.isDir then return (disk.createFolder path).toOption.getD disk
  else if ← file.pathExists then
    let bytes ← IO.FS.readBinFile file
    return (disk.putFile path bytes.toList).toOption.getD disk
  else return disk

/-- Copies what is at a path and on the way to it. -/
def copyPath (disk : Disk) (path : Path) : IO Disk :=
  (List.range (path.parts.length + 1)).foldlM
    (fun disk count => copyNode disk { path with parts := path.parts.take count }) disk

/-- Copies an output root with the manifests in it. -/
def copyRoot (disk : Disk) (root : Path) : IO Disk := do
  let disk ← copyPath disk root
  let folder := (← IO.currentDir) / stringOf root.spell
  if ← folder.isDir then
    (← folder.readDir).toList.foldlM
      (fun disk entry =>
        copyPath disk
          ((root.child (textOf entry.fileName)).child Publication.manifestFile))
      disk
  else return disk

/-- The source that a request names. -/
def sourceOf : Invocation → List Text
  | .request _ (.generate options) => [options.source]
  | .request _ (.inspect options) => [options.source]
  | _ => []

/-- The settings that a request chooses. -/
def settingsOf : Invocation → Entries
  | .request _ request => request.settings
  | _ => []

/-- The part of the system's files that a run may look at. -/
def diskFor (environment : List (Text × Text)) (invocation : Invocation) : IO Disk := do
  let place := Path.ofText (textOf (← IO.currentDir).toString)
  let disk ← copyPath ⟨.folder [], place.parts⟩ place
  let disk ← copyPath disk (place.child Settings.projectFile)
  let disk ← copyPath disk (place.append (DataFolder.logs "Linux" environment))
  let disk ← (sourceOf invocation).foldlM
    (fun disk source => copyPath disk (place.append (.ofText source))) disk
  match Settings.resolve disk environment (settingsOf invocation) with
  | .ok settings => copyRoot disk (place.append (.ofText settings.outputRoot))
  | .error _ => return disk

/-- Makes a change on the system's own files. -/
def performChange (change : Change) : IO Unit := do
  let place ← IO.currentDir
  match change with
  | .createFolder path => IO.FS.createDir (place / stringOf path.spell)
  | .emptyFile path => IO.FS.writeFile (place / stringOf path.spell) ""
  | .fillFile path text => IO.FS.writeFile (place / stringOf path.spell) (stringOf text)
  | .move source target =>
      IO.FS.rename (place / stringOf source.spell) (place / stringOf target.spell)
  | .removeFolder path => IO.FS.removeDirAll (place / stringOf path.spell)

/-- Makes changes in order; the first that the system refuses is told with how many were made
before it. -/
def performAll (made : Nat) : List (Nat × Change) → IO (Nat × Option (Nat × FileFault))
  | [] => return (made, none)
  | (number, change) :: rest => do
      try
        performChange change
      catch refusal =>
        return (made, some (number, .other (textOf (toString refusal))))
      performAll (made + 1) rest

/-- The trouble that the system is known to make. -/
def troubleOf (faults : List (Nat × FileFault)) : Trouble :=
  fun number _ => faults.lookup number

/-- The outcome whose changes the system lets happen, where `made` of them are made already. -/
partial def settle (outcomeWith : Trouble → Outcome) (made : Nat)
    (faults : List (Nat × FileFault)) : IO Outcome := do
  let outcome := outcomeWith (troubleOf faults)
  match ← performAll made (outcome.session.run.made.drop made) with
  | (_, none) => return outcome
  | (made, some fault) => settle outcomeWith made (fault :: faults)

/-- No connection is ever made. -/
def web : Discovery.Web :=
  fun _ => .broken "ConnectError" "No connection can be made"

/-- The standard input, if a request reads it. -/
def input (invocation : Invocation) : IO Text := do
  if (sourceOf invocation).any LocalSource.isInput then
    return textOf (← (← IO.getStdin).readToEnd)
  else return []

def run (arguments : List Text) : IO Outcome := do
  let invocation := Invocation.read arguments
  let environment ← environment
  let surroundings : Surroundings :=
    { environment, web
      input := ← input invocation
      now := ← now
      system := "Linux"
      isTerminal := ← (← IO.getStdout).isTty
      token := ← token
      trouble := .never }
  let disk ← diskFor environment invocation
  settle (fun trouble => Program.run { surroundings with trouble } disk arguments) 0 []

end ApiForge.CommandLine

def main (arguments : List String) : IO UInt32 := do
  let outcome ← ApiForge.CommandLine.run (arguments.map ApiForge.CommandLine.textOf)
  let printed := outcome.session.printed
  (← IO.getStderr).putStr (ApiForge.CommandLine.stringOf printed.diagnostics)
  (← IO.getStdout).putStr (ApiForge.CommandLine.stringOf printed.output)
  return outcome.exitCode.toNat.toUInt32

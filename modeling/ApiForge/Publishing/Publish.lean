import ApiForge.Files.Change
import ApiForge.Record.Manifest

/-!
# Publishing

A client is published under its name in the output root, as a folder with its
files and its manifest. The files are made in a staging folder beside the
target, and only when all of them are there does the staging folder take the
target's place. A client that was there before is set aside first; it comes back
if the new one cannot take its place, and goes away when it has.
-/

namespace ApiForge

/-- Where a client is published: the root, the name and the token that makes the names of staging
and backup new. -/
structure Publication where
  root : Path
  name : Text
  token : Text
  deriving DecidableEq, Repr

namespace Publication

def manifestFile : Text :=
  "manifest.json"

def target (publication : Publication) : Path :=
  publication.root.child publication.name

def stagingName (publication : Publication) : Text :=
  "." ++ publication.name ++ "." ++ publication.token ++ ".staging"

def staging (publication : Publication) : Path :=
  publication.root.child publication.stagingName

/-- Where the client that was there before waits. -/
def backup (publication : Publication) : Path :=
  publication.root.child (publication.stagingName ++ ".previous")

/-- The name is that of a single folder. -/
def isNamed (publication : Publication) : Bool :=
  !publication.name.isEmpty && publication.name != ['.'] && publication.name != ['.', '.'] &&
    !publication.name.contains '/' && !publication.name.contains '\\'

/-- The staging folder as it is asked for. -/
def stagingText (publication : Publication) : Text :=
  let root := publication.root.spell
  if root.endsWith ['/'] then root ++ publication.stagingName
  else root ++ "/" ++ publication.stagingName

/-- What to say of a folder that cannot be made. -/
def rootFailure (publication : Publication) : FileFault → Abort
  | .unforeseen => .unforeseen
  | fault => .failed (.output (.noRoot publication.root.spell fault.message))

/-- A fault of the staging folder names it as it was asked for. -/
def stagingFault (publication : Publication) : FileFault → FileFault
  | .place cause _ => .place cause publication.stagingText
  | fault => fault

/-- Makes the root and the staging folder. -/
def begin (trouble : Trouble) (publication : Publication) (run : Run) : Run × Option Abort :=
  match run.ensureFolder trouble publication.root with
  | (run, some fault) => (run, some (publication.rootFailure fault))
  | (run, none) =>
      match run.attempt trouble (.createFolder publication.staging) with
      | (run, some fault) =>
          (run, some (publication.rootFailure (publication.stagingFault fault)))
      | (run, none) => (run, none)

/-- The changes that fill the staging folder with files. -/
def filling (publication : Publication) (files : List (Text × Text)) : List Change :=
  files.flatMap fun (name, text) => Run.writing (publication.staging.child name) text

/-- Adds the manifest; one that cannot be encoded is not foreseen. -/
def addManifest (trouble : Trouble) (publication : Publication) (manifest : Manifest) (run : Run) :
    Run × Option FileFault :=
  match Utf8.encode manifest.spell with
  | .error _ => (run, some .unforeseen)
  | .ok _ =>
      run.attemptAll trouble
        (Run.writing (publication.staging.child manifestFile) manifest.stored)

/-- Puts the staging folder in the place of the target. -/
def swap (trouble : Trouble) (publication : Publication) (run : Run) : Run × Option FileFault :=
  match run.disk.isPresent publication.target with
  | .error _ => (run, some .unforeseen)
  | .ok isThere =>
      run.attemptAll trouble
        ((if isThere then [.move publication.target publication.backup] else []) ++
          [.move publication.staging publication.target])

/-- Fills the staging folder and swaps it in. -/
def carryOut (trouble : Trouble) (publication : Publication) (files : List (Text × Text))
    (manifest : Manifest) (run : Run) : Run × Option FileFault :=
  match run.attemptAll trouble (publication.filling files) with
  | (run, some fault) => (run, some fault)
  | (run, none) =>
      match publication.addManifest trouble manifest run with
      | (run, some fault) => (run, some fault)
      | (run, none) => publication.swap trouble run

/-- The client that was set aside has to come back. -/
def needsRestoring (publication : Publication) (disk : Disk) : Except Abort Bool := do
  if ← disk.isPresent publication.backup then
    pure !(← disk.isPresent publication.target)
  else pure false

/-- Brings back the client that was set aside. A fault on the way back is not foreseen. -/
def restore (trouble : Trouble) (publication : Publication) (run : Run) : Run × Option Abort :=
  match publication.needsRestoring run.disk with
  | .error abort => (run, some abort)
  | .ok false => (run, none)
  | .ok true =>
      match run.attempt trouble (.move publication.backup publication.target) with
      | (run, none) => (run, none)
      | (run, some _) => (run, some .unforeseen)

/-- What comes of a fault while the client is made. -/
def recover (trouble : Trouble) (publication : Publication) (run : Run) : FileFault → Run × Abort
  | .unforeseen => (run, .unforeseen)
  | fault =>
      match publication.restore trouble run with
      | (run, some abort) => (run, abort)
      | (run, none) =>
          (run, .failed (.output (.unwritable publication.target.spell fault.message)))

/-- Takes the staging folder away if it is still there. -/
def clearStaging (trouble : Trouble) (publication : Publication) (run : Run) : Run :=
  match run.disk.isPresent publication.staging with
  | .ok true => (run.attempt trouble (.removeFolder publication.staging)).1
  | _ => run

/-- The client that was set aside is no longer needed. -/
def isSuperseded (publication : Publication) (disk : Disk) : Except Abort Bool := do
  if ← disk.isPresent publication.backup then disk.isPresent publication.target
  else pure false

/-- Takes the client that was set aside away once another has its place. A file that was set aside
stays. -/
def clearBackup (trouble : Trouble) (publication : Publication) (run : Run) : Run × Option Abort :=
  match publication.isSuperseded run.disk with
  | .error abort => (run, some abort)
  | .ok false => (run, none)
  | .ok true => ((run.attempt trouble (.removeFolder publication.backup)).1, none)

/-- Clears up after `outcome`, which stands unless clearing up meets what is not foreseen. -/
def finish (trouble : Trouble) (publication : Publication) (run : Run) (outcome : Option Abort) :
    Run × Except Abort Path :=
  match publication.clearBackup trouble (publication.clearStaging trouble run) with
  | (run, some abort) => (run, .error abort)
  | (run, none) =>
      match outcome with
      | some abort => (run, .error abort)
      | none => (run, .ok publication.target)

/-- Publishes files with their manifest; the result is the folder that holds them. -/
def publish (trouble : Trouble) (publication : Publication) (files : List (Text × Text))
    (manifest : Manifest) (run : Run) : Run × Except Abort Path :=
  if !publication.isNamed then (run, .error (.failed (.output (.badName publication.name))))
  else
    match publication.begin trouble run with
    | (run, some abort) => (run, .error abort)
    | (run, none) =>
        match publication.carryOut trouble files manifest run with
        | (run, none) => publication.finish trouble run none
        | (run, some fault) =>
            let (run, abort) := publication.recover trouble run fault
            publication.finish trouble run (some abort)

end Publication

end ApiForge

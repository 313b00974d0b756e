import ApiForge.Console.Table
import ApiForge.Discovery.Exchange
import ApiForge.Files.Change

/-!
# Sessions

A command runs in surroundings that do not change and leaves its traces in a
session: the changes of the disk, the URLs it requested and what it printed. The
traces stay when the command ends early.
-/

namespace ApiForge

/-- What a command finds around it. The token makes the names of folders new. -/
structure Surroundings where
  environment : List (Text × Text)
  web : Discovery.Web
  input : Text
  now : Moment
  system : Text
  isTerminal : Bool
  token : Text
  trouble : Trouble

structure Session where
  run : Run
  requested : List Text
  printed : Printed

namespace Session

def start (disk : Disk) : Session :=
  ⟨.start disk, [], .nothing⟩

def disk (session : Session) : Disk :=
  session.run.disk

end Session

/-- A command's steps. -/
abbrev Command := ExceptT Abort (StateM Session)

namespace Command

/-- A step that leaves no trace. -/
def step {α : Type} (result : Except Abort α) : Command α :=
  fun session => (result, session)

/-- A step that depends on the disk and leaves no trace. -/
def ofDisk {α : Type} (result : Disk → Except Abort α) : Command α :=
  fun session => (result session.disk, session)

def print (printed : Printed) : Command Unit :=
  fun session => (.ok (), { session with printed := session.printed ++ printed })

/-- Says something on a console. -/
def say (console : Console) (notice : Notice) (message : Text) : Command Unit := do
  print (← step (console.notify notice message))

def sayAll (console : Console) (notice : Notice) : List Text → Command Unit
  | [] => pure ()
  | message :: rest => do
      say console notice message
      sayAll console notice rest

/-- A step that requests URLs. -/
def requesting {α : Type} (requested : List Text) (result : Except Abort α) : Command α :=
  fun session => (result, { session with requested := session.requested ++ requested })

/-- A step that changes the disk. -/
def changing {α : Type} (change : Run → Run × Except Abort α) : Command α :=
  fun session =>
    let (run, result) := change session.run
    (result, { session with run })

end Command

end ApiForge

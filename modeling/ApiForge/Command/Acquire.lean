import ApiForge.Command.Session
import ApiForge.Discovery.Search
import ApiForge.Document.Parse
import ApiForge.Files.Disk
import ApiForge.Import.Api
import ApiForge.Record.Settings
import ApiForge.Validation.Rules

/-!
# Acquiring an API

A source is a local one or a URL to search from. A local description may be in a
file, or come in on the standard input, which is spelled by a dash; a file whose
name ends in `.json` is tried as JSON first. A description is validated, and the
API that it describes is known with the place it was found at.
-/

namespace ApiForge.LocalSource

def isInput (source : Text) : Bool :=
  source == ['-']

/-- The source is the standard input or a file. -/
def isLocal (disk : Disk) (source : Text) : Except Abort Bool :=
  if isInput source then .ok true else disk.isFile (.ofText source)

/-- The content type that a file name speaks of. -/
def contentType (path : Path) : Text :=
  if path.suffix.lower = ".json" then "json" else []

/-- The description of a local source. -/
def load (disk : Disk) (input source : Text) : Except Abort Value :=
  if isInput source then Document.parseDescription [] input
  else do
    let path := Path.ofText source
    match ← disk.readText? path with
    | some text => Document.parseDescription (contentType path) text
    | none => throw (.failed (.unreachable source "file not found" none))

/-- Where a local source is, as the manifest notes it. -/
def placeOf (disk : Disk) (source : Text) : Text :=
  if isInput source then source else (disk.absolute (.ofText source)).spell

/-- The name of a client made from a local source. -/
def clientName (source : Text) : Text :=
  if isInput source then "stdin-api" else (Path.ofText source).stem

end ApiForge.LocalSource

namespace ApiForge

structure Acquired where
  api : Api
  foundAt : Text

namespace Acquired

/-- The API of a local source. -/
def ofLocal (disk : Disk) (input source : Text) (settings : Settings) : Except Abort Acquired := do
  let document ← LocalSource.load disk input source
  let document ← Validation.validate settings.dereference document
  let api ← Import.apiOf document none
  pure ⟨api, LocalSource.placeOf disk source⟩

/-- The API of a description that a search found. -/
def ofLocated (located : Discovery.Located) : Except Abort Acquired := do
  let api ← Import.apiOf located.document (some located.foundAt)
  pure ⟨api, located.foundAt⟩

end Acquired

namespace Command

def acquireLocal (surroundings : Surroundings) (console : Console) (settings : Settings)
    (source : Text) : Command Acquired := do
  let shown : Text := if LocalSource.isInput source then "stdin" else source
  say console .info ("Loading specification from " ++ shown ++ "...")
  ofDisk fun disk => Acquired.ofLocal disk surroundings.input source settings

def acquireRemote (surroundings : Surroundings) (console : Console) (settings : Settings)
    (source : Text) : Command Acquired := do
  say console .info ("Locating specification from " ++ source ++ "...")
  let searched := Discovery.search surroundings.web (Validation.validate settings.dereference)
    settings.probePaths source
  let located ← requesting searched.requested searched.result
  say console .debug
    ("Found after " ++ Text.ofNat located.attempts.length ++ " attempt(s)")
  step (Acquired.ofLocated located)

/-- The API of a source. -/
def acquire (surroundings : Surroundings) (console : Console) (settings : Settings)
    (source : Text) : Command Acquired := do
  if ← ofDisk fun disk => LocalSource.isLocal disk source then
    acquireLocal surroundings console settings source
  else acquireRemote surroundings console settings source

end Command

end ApiForge

import ApiForge.Command.Invocation
import ApiForge.Command.Session
import ApiForge.Publishing.Listing
import ApiForge.Settings.Precedence

/-!
# Listing clients

The clients in the output root, one in each row, with what their manifests say.
-/

namespace ApiForge.Command

/-- A client as a document; one without a manifest says so. -/
def clientRecord (name : Text) : Option Manifest → Value
  | some manifest => manifest.toRecord
  | none =>
      Manifest.recordOf [("name", .str name), ("error", .str "missing or unreadable manifest")]

/-- A client as a row. -/
def clientRow (name : Text) : Option Manifest → List Text
  | some manifest =>
      [name, manifest.title, manifest.version, Text.ofInt manifest.stats.operations,
        Text.ofInt manifest.stats.schemas, Text.ofInt manifest.stats.tags, manifest.generatedAt]
  | none => [name, "(no manifest)", "-", "-", "-", "-", "-"]

def clientTable (clients : List (Text × Option Manifest)) : Table :=
  { headers := ["Name", "Title", "Version", "Operations", "Schemas", "Tags", "Generated"]
    rows := clients.map fun (name, manifest) => clientRow name manifest }

def clientRecords (clients : List (Text × Option Manifest)) : Value :=
  .list (clients.map fun (name, manifest) => clientRecord name manifest)

/-- Shows the clients, or what to do where there are none. -/
def showClients (console : Console) (root : Text) (clients : List (Text × Option Manifest)) :
    Command Unit := do
  if console.format = .json then print (Console.printRecord (clientRecords clients))
  else if clients.isEmpty then
    say console .info ("No generated clients found in " ++ root)
    say console .suggestion "Run: apimapper generate <url>"
  else print ((clientTable clients).print console)

def list (surroundings : Surroundings) (console : Console) (outputRoot : Option Text) :
    Command Unit := do
  let settings ← ofDisk fun disk =>
    Settings.resolve disk surroundings.environment (Request.list outputRoot).settings
  let clients ← ofDisk fun disk => Listing.ofRoot disk (.ofText settings.outputRoot)
  showClients console settings.outputRoot clients

end ApiForge.Command

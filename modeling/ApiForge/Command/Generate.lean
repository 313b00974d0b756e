import ApiForge.Artifacts
import ApiForge.Command.Acquire
import ApiForge.Command.Invocation
import ApiForge.Publishing.Publish
import ApiForge.Settings.Precedence

/-!
# Generating a client

The artifacts that are wanted are made from the API of a source and published
under a name in the output root.
-/

namespace ApiForge

/-- A client as it was published. -/
structure Published where
  acquired : Acquired
  manifest : Manifest
  target : Path

namespace Command

/-- Two options that exclude each other were given. -/
def checkDocs (options : GenerateOptions) : Except Abort Unit :=
  if options.docsOnly && options.docs == some false then
    .error (.failed (.settings (.other "--docs-only and --no-docs cannot be combined")))
  else .ok ()

def selectionFor (options : GenerateOptions) (settings : Settings) : Selection :=
  { types := !options.docsOnly
    client := !options.docsOnly
    docs := options.docsOnly || settings.docs }

/-- The name under which the client of a source is published, if none was given. -/
def usualName (disk : Disk) (source foundAt : Text) : Except Abort Text := do
  if ← LocalSource.isLocal disk source then pure (LocalSource.clientName source)
  else Url.clientName foundAt

def nameFor (disk : Disk) (options : GenerateOptions) (foundAt : Text) : Except Abort Text :=
  match options.name.filter fun name => !name.isEmpty with
  | some name => .ok name
  | none => usualName disk options.source foundAt

def render (acquired : Acquired) (name : Text) (selection : Selection) :
    Except Abort (List (Text × Text)) :=
  match Artifacts.render acquired.api (Naming.clientClass name) selection with
  | .ok files => .ok files
  | .error failure => .error (.failed failure)

/-- Makes the client and publishes it. -/
def publish (surroundings : Surroundings) (console : Console) (options : GenerateOptions) :
    Command Published := do
  let settings ← ofDisk fun disk =>
    Settings.resolve disk surroundings.environment (Request.generate options).settings
  step (checkDocs options)
  let acquired ← acquire surroundings console settings options.source
  let name ← ofDisk fun disk => nameFor disk options acquired.foundAt
  let files ← step (render acquired name (selectionFor options settings))
  let manifest :=
    Manifest.ofApi acquired.api name acquired.foundAt (files.map (·.1)) surroundings.now
  let publication : Publication := ⟨.ofText settings.outputRoot, name, surroundings.token⟩
  let target ← changing (publication.publish surroundings.trouble files manifest)
  pure ⟨acquired, manifest, target⟩

/-- How much an API holds, in words. -/
def countLine (stats : Stats) : Text :=
  Text.ofInt stats.operations ++ " operations, " ++ Text.ofInt stats.schemas ++ " schemas, " ++
    Text.ofInt stats.tags ++ " tags"

/-- The manifest with the folder that holds the client. -/
def publishedRecord (published : Published) : Value :=
  match published.manifest.toRecord with
  | .map entries => .map (entries ++ [(.str "outputDir", .str published.target.spell)])
  | record => record

/-- The base URL as it is told, if there is one. -/
def baseLine (api : Api) : List Text :=
  match api.baseUrl.filter fun base => !base.isEmpty with
  | some base => ["Base URL: " ++ base]
  | none => []

/-- Tells what was published. -/
def tell (console : Console) (published : Published) : Command Unit := do
  let api := published.acquired.api
  sayAll console .info
    (["API: " ++ api.title ++ " v" ++ api.version] ++ baseLine api ++
      ["Source: " ++ published.acquired.foundAt, "Found " ++ countLine api.stats])
  sayAll console .success
    ((published.manifest.files ++ [Publication.manifestFile]).map fun name => "  ✓ " ++ name)
  print (Console.printText published.target.spell)

def generate (surroundings : Surroundings) (console : Console) (options : GenerateOptions) :
    Command Unit := do
  let published ← publish surroundings console options
  if console.format = .json then print (Console.printRecord (publishedRecord published))
  else tell console published

end Command

end ApiForge

import ApiForge.Command.Generate

/-!
# Inspecting a source

What would be generated from a source, without writing anything.
-/

namespace ApiForge.Command

/-- The method of the client that calls an operation. -/
def clientMethod (operation : Operation) : Text :=
  Naming.group operation.group ++ "." ++ Naming.camel operation.identifier

def operationRecord (operation : Operation) : Value :=
  Manifest.recordOf
    [("operationId", .str operation.identifier), ("method", .str operation.method.verb),
      ("path", .str operation.path), ("group", .str operation.group),
      ("clientMethod", .str (clientMethod operation)),
      ("deprecated", .bool operation.deprecated)]

/-- An API as a document. -/
def apiRecord (acquired : Acquired) : Value :=
  let api := acquired.api
  Manifest.recordOf
    [("title", .str api.title), ("version", .str api.version),
      ("description", Manifest.textOrNull api.description),
      ("baseUrl", Manifest.textOrNull api.baseUrl), ("sourceUrl", .str acquired.foundAt),
      ("stats", Manifest.statsRecord api.stats),
      ("operations", .list (api.operations.map operationRecord)),
      ("schemas", .list (api.schemas.map fun (name, _) => .str name))]

def operationRow (operation : Operation) : List Text :=
  [operation.method.verb, operation.path, clientMethod operation,
    (operation.success?.map (·.status)).getD "void", if operation.deprecated then "Yes" else []]

def operationTable (api : Api) : Table :=
  { headers := ["Method", "Path", "Client method", "Response", "Deprecated"]
    rows := api.operations.map operationRow }

/-- The base URL, or a dash. -/
def shownBase (api : Api) : Text :=
  (api.baseUrl.filter fun base => !base.isEmpty).getD "-"

def showApi (console : Console) (acquired : Acquired) : Command Unit := do
  let api := acquired.api
  sayAll console .info
    [api.title ++ " v" ++ api.version, "Source: " ++ acquired.foundAt,
      "Base URL: " ++ shownBase api, countLine api.stats]
  print ((operationTable api).print console)

def inspect (surroundings : Surroundings) (console : Console) (options : InspectOptions) :
    Command Unit := do
  let settings ← ofDisk fun disk =>
    Settings.resolve disk surroundings.environment (Request.inspect options).settings
  let acquired ← acquire surroundings console settings options.source
  if console.format = .json then print (Console.printRecord (apiRecord acquired))
  else showApi console acquired

end ApiForge.Command

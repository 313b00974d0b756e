import ApiForge.TypeScript.ClientCore
import ApiForge.TypeScript.Declaration
import ApiForge.TypeScript.PathTemplate

/-!
# Clients

The file of the client: a class with one member for each group of operations
and in it one method for each operation. The methods use the types that the
file of types declares.
-/

namespace ApiForge.TypeScript

/-- An argument of a method: its type, and whether a call may leave it out. -/
structure Argument where
  type : Text
  mayOmit : Bool
  deriving DecidableEq, Repr

/-- A method of the client. -/
structure ClientMethod where
  name : Text
  comment : Text
  verb : Text
  params : Option Argument
  body : Option Argument
  contentType : Option Text
  path : Text
  pathNames : List Text
  query : List Parameter
  response : Text
  returnsValue : Bool
  deriving Repr

namespace ClientMethod

/-- What a method's comment says: summary, description, and that the operation is deprecated. -/
def commentOf (operation : Operation) : Text :=
  let summary := remark operation.summary
  let description := (remark operation.description).filter fun text => some text != operation.summary
  let deprecation := if operation.deprecated then some "@deprecated".toList else none
  Text.lines (summary.toList ++ description.toList ++ deprecation.toList)

/-- The argument with the parameters. -/
def paramsOf (operation : Operation) : Option Argument :=
  (paramsType? operation).map fun type => ⟨type, !operation.fields.any (·.required)⟩

/-- The argument with the body. -/
def bodyOf (operation : Operation) : Option Argument :=
  operation.body.map fun body =>
    ⟨Naming.operationType operation.identifier Naming.requestSuffix, !body.required⟩

def ofOperation (operation : Operation) : ClientMethod := {
  name := Naming.camel operation.identifier
  comment := commentOf operation
  verb := operation.method.verb
  params := paramsOf operation
  body := bodyOf operation
  contentType := operation.body.map (·.contentType)
  path := operation.path
  pathNames := (operation.parametersIn .path).map (·.name)
  query := operation.parametersIn .query
  response := responseType operation
  returnsValue := operation.success?.isSome }

def paramsText (argument : Argument) : Text :=
  let default : Text := if argument.mayOmit then " = \x7b\x7d" else []
  "params: " ++ argument.type ++ default

def bodyText (argument : Argument) : Text :=
  let mark : Text := if argument.mayOmit then "?" else []
  "body" ++ mark ++ ": " ++ argument.type

/-- The line that a method begins with. -/
def head (method : ClientMethod) : Text :=
  let arguments :=
    (method.params.map paramsText).toList ++ (method.body.map bodyText).toList
  "    " ++ method.name ++ ": async (" ++ Text.join ", " arguments ++ "): Promise<" ++
    method.response ++ "> => \x7b"

/-- Sets one field of the query; what may be left out is set only if it is given. -/
def queryLine (parameter : Parameter) : Text :=
  let value := Naming.memberAccess "params" parameter.name
  let setter := "query.set(" ++ Json.quote true parameter.name ++ ", String(" ++ value ++ "));"
  if parameter.required then "      " ++ setter
  else "      if (" ++ value ++ " !== undefined) " ++ setter

/-- The lines that make up the query, if there is any. -/
def queryLines (query : List Parameter) : List Text :=
  if query.isEmpty then []
  else
    "      const query = new URLSearchParams();".toList :: query.map queryLine ++
      ["      const queryString = query.toString();".toList]

/-- The expression that sends the request. -/
def call (method : ClientMethod) : Text :=
  let target : Text :=
    if method.query.isEmpty then "path"
    else "queryString ? \x60$\x7bpath\x7d?$\x7bqueryString\x7d\x60 : path"
  let body : Text := match method.contentType with
    | some contentType => ", body, " ++ Json.quote true contentType
    | none => []
  "this.request(\"" ++ method.verb ++ "\", " ++ target ++ body ++ ")"

/-- The lines that send the request and read the answer. -/
def sendLines (method : ClientMethod) : List Text :=
  if method.returnsValue then
    ["      const response = await " ++ method.call ++ ";",
      "      return (await response.json()) as " ++ method.response ++ ";"]
  else ["      await " ++ method.call ++ ";"]

def lines (method : ClientMethod) : List Text :=
  (if method.comment.isEmpty then [] else [TypeScript.comment "    " method.comment]) ++
    [method.head,
      "      const path = " ++ pathTemplate method.pathNames method.path ++ ";"] ++
    queryLines method.query ++ method.sendLines ++ ["    \x7d,".toList]

end ClientMethod

/-- The methods of one group under the name of their member. -/
structure ClientGroup where
  name : Text
  methods : List ClientMethod
  deriving Repr

/-- The lines of a list of parts with an empty line between neighbours. -/
def separated : List (List Text) → List Text
  | [] => []
  | [part] => part
  | part :: other :: rest => part ++ [[]] ++ separated (other :: rest)

def ClientGroup.lines (group : ClientGroup) : List Text :=
  ("  readonly " ++ Naming.propertyKey group.name ++ " = \x7b") ::
    separated (group.methods.map (·.lines)) ++ ["  \x7d;".toList]

structure ClientFile where
  name : Text
  imports : List Text
  groups : List ClientGroup
  deriving Repr

namespace ClientFile

def ofApi (api : Api) (name : Text) : Except Failure ClientFile := do
  let _ ← Naming.assign "Tag" Naming.group api.groupNames
  pure {
    name
    imports := Text.distinct (api.operations.flatMap operationTypes)
    groups := api.groups.map fun (group, operations) =>
      ⟨Naming.group group, operations.map .ofOperation⟩ }

/-- The lines that name the types in use, if there are any. -/
def importLines (names : List Text) : List Text :=
  if names.isEmpty then []
  else
    "import type \x7b".toList :: names.map (fun name => "  " ++ name ++ ",") ++
      ["\x7d from \"./types.js\";".toList, []]

/-- The lines of the function that makes a client. -/
def factoryLines (name : Text) : List Text :=
  ["/** Create a new API client instance. */",
    "export function create" ++ name ++ "(config: ClientConfig): " ++ name ++ " \x7b",
    "  return new " ++ name ++ "(config);",
    "\x7d",
    ""]

def opening : List Text :=
  ["// Auto-generated API client", "// Do not edit manually", ""]

def render (file : ClientFile) : Text :=
  Text.lines
    (opening ++
      importLines file.imports ++
      sharedLines ++ [[]] ++
      ["export class " ++ file.name ++ " \x7b"] ++
      coreLines ++ [[]] ++
      separated (file.groups.map (·.lines)) ++
      [['\x7d'], []] ++
      factoryLines file.name)

end ClientFile

end ApiForge.TypeScript

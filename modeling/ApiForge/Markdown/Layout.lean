import ApiForge.Markdown.Page

/-!
# Page layout

The lines of a page, from its title to its last model.
-/

namespace ApiForge.Markdown

/-- The base URL in examples of an API that names none. -/
def exampleUrl : Text :=
  "https://api.example.com"

/-- A paragraph, if there is a text for it. -/
def paragraph (text : Option Text) : List Text :=
  match said text with
  | some text => [text, []]
  | none => []

/-- A line and an empty line. -/
def spaced (line : Text) : List Text :=
  [line, []]

/-- A line across the page. -/
def rule : List Text :=
  spaced "---"

/-- A heading of a level. -/
def heading (level : Nat) (title : Text) : List Text :=
  spaced (List.replicate level '#' ++ " " ++ title)

/-- A row of a table. -/
def row (cells : List Text) : Text :=
  "| " ++ Text.join " | " cells ++ " |"

/-- The rows of a table that separate its head from its body. -/
def tableHead (titles : List Text) (widths : List Nat) : List Text :=
  [row titles, '|' :: widths.flatMap fun width => List.replicate width '-' ++ ['|']]

def yesNo (value : Bool) : Text :=
  if value then "Yes" else "No"

/-- An item of a list: a name and what is said about it. -/
def item (name text : Text) : Text :=
  "- " ++ name ++ ": " ++ text

/-- An entry of the table of contents. -/
def contentsLine (depth : Nat) (title target : Text) : Text :=
  List.replicate (2 * depth) ' ' ++ "- [" ++ title ++ "](#" ++ target ++ ")"

def groupContents (group : GroupEntry) : List Text :=
  contentsLine 1 group.title group.target ::
    group.operations.map fun entry => contentsLine 2 entry.heading entry.target

def contents (page : Page) : List Text :=
  heading 2 "Table of Contents" ++ [contentsLine 0 "Endpoints" page.endpointsTarget] ++
    page.groups.flatMap groupContents ++ [contentsLine 0 "Models" page.modelsTarget]

/-- The title and what is said about the API as a whole. -/
def opening (page : Page) : List Text :=
  heading 1 page.title ++ spaced ("**Version:** " ++ page.version) ++
    paragraph page.description ++
    paragraph (page.baseUrl.map fun url => "> **Base URL:** " ++ ticked url)

def quickStartLines : Option QuickStart → List Text
  | none => []
  | some quickStart =>
      [[], "// Example: " ++ quickStart.summary, "const result = await " ++ quickStart.call ++ ";",
        "console.log(result);"]

/-- How to make a client. -/
def factoryLines (page : Page) : List Text :=
  ["import \x7b " ++ page.factory ++ " \x7d from \"./client.js\";",
    "",
    "const api = " ++ page.factory ++ "(\x7b",
    "  baseUrl: \"" ++ page.baseUrl.getD exampleUrl ++ "\",",
    "\x7d);"]

/-- What stands on the lines around code. -/
def fence : Text :=
  "\x60\x60\x60"

/-- How to install and use the client. -/
def usage (page : Page) : List Text :=
  heading 2 "Quick Start" ++ heading 3 "Installation" ++
    spaced "Copy the generated \x60types.ts\x60 and \x60client.ts\x60 files into your project." ++
    heading 3 "Usage" ++ [fence ++ "typescript"] ++ factoryLines page ++
    quickStartLines page.quickStart ++ spaced fence

def parameterRow (parameter : Parameter) : Text :=
  row [codeSpan parameter.name, cell (some (parameterLabel parameter)), yesNo parameter.required,
    parameter.location.name, cell parameter.description]

def parametersTable (parameters : List Parameter) : List Text :=
  if parameters.isEmpty then []
  else
    [] :: spaced "**Parameters:**" ++
      tableHead ["Parameter", "Type", "Required", "Location", "Description"] [11, 6, 10, 10, 13] ++
      parameters.map parameterRow

def bodyLines : Option RequestBody → List Text
  | none => []
  | some body =>
      [] :: spaced "**Request Body:**" ++ paragraph body.description ++
        [item "Content-Type" (ticked body.contentType), item "Required" (yesNo body.required),
          item "Type" (schemaLabel body.schema)]

def responseRow (response : Response) : Text :=
  row [codeSpan response.status, cell (some response.description), contentLabel response.schema]

def responsesTable (responses : List Response) : List Text :=
  if responses.isEmpty then ["_No responses declared._"]
  else tableHead ["Status", "Description", "Type"] [8, 13, 6] ++ responses.map responseRow

/-- The description of an operation, unless the summary says it already. -/
def descriptionOf (operation : Operation) : Option Text :=
  operation.description.filter fun text => some text != operation.summary

def operationLines (entry : OperationEntry) : List Text :=
  let operation := entry.operation
  let deprecation : Option Text :=
    if operation.deprecated then some "> **Deprecated:** this endpoint is deprecated." else none
  heading 4 entry.heading ++
    paragraph ((said operation.summary).map fun summary => "**" ++ summary ++ "**") ++
    paragraph (descriptionOf operation) ++ paragraph deprecation ++
    ["- **Operation ID:** " ++ ticked operation.identifier,
      "- **Client method:** " ++ ticked (entry.call ++ "()")] ++
    parametersTable operation.parameters ++ bodyLines operation.body ++
    [] :: spaced "**Responses:**" ++ responsesTable operation.responses ++ [] :: rule

def groupLines (group : GroupEntry) : List Text :=
  heading 3 group.title ++ paragraph group.description ++
    group.operations.flatMap operationLines

def fieldRow (field : Field) : Text :=
  row [codeSpan field.name, field.label, yesNo field.isRequired, cell field.description]

/-- What a model holds: values, fields or another type. -/
def shapeLines (schema : Schema) : List Text :=
  match schema with
  | .enumeration _ values =>
      spaced "**Enum values:**" ++ values.map fun value => "- " ++ ticked ("\"" ++ value ++ "\"")
  | schema =>
      match fieldsOf schema with
      | [] => [item "Type" (schemaLabel schema)]
      | fields =>
          tableHead ["Field", "Type", "Required", "Description"] [7, 6, 10, 13] ++
            fields.map fieldRow

def modelLines (model : ModelEntry) : List Text :=
  heading 3 model.name ++ paragraph model.schema.notes.description ++
    shapeLines model.schema ++ [[]]

def models (page : Page) : List Text :=
  if page.models.isEmpty then ["_No models defined._"] else page.models.flatMap modelLines

def pageLines (page : Page) : List Text :=
  opening page ++ rule ++ usage page ++ rule ++ contents page ++ [[]] ++ rule ++
    heading 2 "Endpoints" ++ page.groups.flatMap groupLines ++ heading 2 "Models" ++ models page

/-- The text of a page; every line ends. -/
def Page.render (page : Page) : Text :=
  (pageLines page).flatMap (· ++ ['\n'])

end ApiForge.Markdown

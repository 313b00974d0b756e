import ApiForge.Markdown.Label
import ApiForge.Model.Api
import ApiForge.Naming.Anchor
import ApiForge.Naming.Unique

/-!
# Pages

What the documentation of an API says: a quick start, the groups of operations
and the models. Every heading has a link target, and the table of contents links
to the targets in the order of the headings.
-/

namespace ApiForge.Markdown

/-- One operation with its heading, the heading's target and the call that reaches it. -/
structure OperationEntry where
  operation : Operation
  heading : Text
  target : Text
  call : Text
  deriving Repr

structure GroupEntry where
  title : Text
  target : Text
  description : Option Text
  operations : List OperationEntry
  deriving Repr

/-- One property of a model. -/
structure Field where
  name : Text
  label : Text
  isRequired : Bool
  description : Option Text
  deriving DecidableEq, Repr

structure ModelEntry where
  name : Text
  target : Text
  schema : Schema
  deriving Repr

/-- An example of a call, and what it does. -/
structure QuickStart where
  summary : Text
  call : Text
  deriving DecidableEq, Repr

structure Page where
  title : Text
  version : Text
  description : Option Text
  baseUrl : Option Text
  factory : Text
  quickStart : Option QuickStart
  endpointsTarget : Text
  groups : List GroupEntry
  modelsTarget : Text
  models : List ModelEntry
  deriving Repr

/-- A text that says something. -/
def said (text : Option Text) : Option Text :=
  text.filter (!·.isEmpty)

/-- The call of an operation's method. -/
def callOf (operation : Operation) : Text :=
  "api." ++ Naming.group operation.group ++ "." ++ Naming.camel operation.identifier

/-- The heading of an operation: its method, and its path in backticks. -/
def headingOf (operation : Operation) : Text :=
  operation.method.verb ++ " " ++ ticked operation.path

/-- The fields of an object. -/
def fieldsOf : Schema → List Field
  | .object _ properties required _ =>
      properties.map fun (name, schema) =>
        ⟨name, schemaLabel schema, required.contains name, schema.notes.description⟩
  | _ => []

/-- The first operation that reads and takes no parameters. -/
def quickStartOperation? (api : Api) : Option Operation :=
  api.operations.find? fun operation =>
    operation.method == .get && operation.parameters.isEmpty

def quickStartOf (operation : Operation) : QuickStart :=
  ⟨(said operation.summary).getD operation.identifier, callOf operation ++ "()"⟩

/-- The entries of operations, and the targets used with them. -/
def operationEntries (used : Naming.Anchors) :
    List Operation → List OperationEntry × Naming.Anchors
  | [] => ([], used)
  | operation :: rest =>
      let heading := headingOf operation
      let (target, used) := Naming.Anchors.add used heading
      let (entries, used) := operationEntries used rest
      (⟨operation, heading, target, callOf operation⟩ :: entries, used)

/-- The entries of groups, and the targets used with them. -/
def groupEntries (api : Api) (used : Naming.Anchors) :
    List (Text × List Operation) → List GroupEntry × Naming.Anchors
  | [] => ([], used)
  | (name, operations) :: rest =>
      let title := Naming.pascal name
      let (target, used) := Naming.Anchors.add used title
      let (operations, used) := operationEntries used operations
      let (entries, used) := groupEntries api used rest
      (⟨title, target, api.tagDescription name, operations⟩ :: entries, used)

/-- The entries of named schemas, after the headings with the targets used. -/
def modelEntries (used : Naming.Anchors) : List (Text × Schema) → List ModelEntry
  | [] => []
  | (name, schema) :: rest =>
      let title := Naming.schemaType name
      let (target, used) := Naming.Anchors.add used title
      ⟨title, target, schema⟩ :: modelEntries used rest

/-- The headings between the title and the endpoints. -/
def fixedHeadings : List Text :=
  ["Quick Start", "Installation", "Usage", "Table of Contents"]

/-- The page of an API whose client has this class. -/
def Page.ofApi (api : Api) (clientName : Text) : Except Failure Page := do
  let (_, used) := Naming.Anchors.addAll [] (api.title :: fixedHeadings)
  let (endpointsTarget, used) := Naming.Anchors.add used "Endpoints"
  let _ ← Naming.assign "Tag" Naming.group api.groupNames
  let (groups, used) := groupEntries api used api.groups
  let (modelsTarget, used) := Naming.Anchors.add used "Models"
  let _ ← Naming.assign "Schema" Naming.schemaType (api.schemas.map (·.1))
  pure {
    title := api.title
    version := api.version
    description := said api.description
    baseUrl := said api.baseUrl
    factory := "create" ++ clientName
    quickStart := (quickStartOperation? api).map quickStartOf
    endpointsTarget, groups, modelsTarget
    models := modelEntries used api.schemas }

end ApiForge.Markdown

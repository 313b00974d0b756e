import ApiForge.Import.Body
import ApiForge.Naming.Identifier

/-!
# Importing operations

Every path and method with a mapping is an operation, in document order of the
paths and in the order of the methods. No two operations have one Pascal form of
their identifier.
-/

namespace ApiForge.Import

/-- What an operation holds beside its described fields. -/
structure OperationParts where
  method : Method
  path : Text
  tags : List Text
  parameters : List Parameter
  body : Option RequestBody
  responses : List Response
  deprecated : Bool

def OperationParts.make (parts : OperationParts) (identifier : Text)
    (summary description : Option Text) : Operation :=
  { identifier, summary, description, method := parts.method, path := parts.path
    tags := parts.tags, parameters := parts.parameters, body := parts.body
    responses := parts.responses, deprecated := parts.deprecated }

/-- The identifier that an operation gives itself, or one made of method and path. -/
def identifierOf (method : Method) (path : Text) (operation : Entries) : Value :=
  Value.fieldOr "operationId" operation (.str (Naming.synthesized method.name path))

/-- One operation; `shared` are the parameters of its path. -/
def operationOf (source : Source) (path : Text) (shared : Value) (method : Method)
    (operation : Entries) : Except Abort Operation := do
  let merged ← mergedParameters source shared (Value.fieldOr "parameters" operation (.list []))
  let body ← match source.dialect with
    | .swagger => bodyOfParameters source operation merged
    | .openApi => bodyOf source (Value.fieldOrNull "requestBody" operation)
  let tags ← Value.fieldElements "tags" operation
  let parameters ← parametersOf source merged
  let responses ← responsesOf source operation
  let parts : OperationParts := {
    method, path, tags := tags.map Value.display, parameters, body, responses
    deprecated := (Value.fieldOrNull "deprecated" operation).holds }
  let identifier := (Checked.text (identifierOf method path operation)).within "operation_id"
  let summary := (Checked.optionalText (Value.fieldOrNull "summary" operation)).within "summary"
  let description :=
    (Checked.optionalText (Value.fieldOrNull "description" operation)).within "description"
  (((identifier.map parts.make).and summary).and description).orAbort

/-- An operation whose identifier no operation before it has. -/
def checkIdentifier (known : List Operation) (operation : Operation) : Except Abort Unit :=
  let same (other : Operation) : Bool :=
    Naming.pascal other.identifier == Naming.pascal operation.identifier
  match known.find? same with
  | some first =>
      .error (.failed (.duplicateOperation operation.identifier first.label operation.label))
  | none => .ok ()

/-- The operations known with those of a path item. -/
def addItem (source : Source) (path : Text) (item : Entries) (known : List Operation) :
    Except Abort (List Operation) :=
  Method.all.foldlM (fun known method => do
    match Value.fieldOrNull method.name item with
    | .map entries =>
        let shared := Value.fieldOr "parameters" item (.list [])
        let operation ← operationOf source path shared method entries
        checkIdentifier known operation
        pure (known ++ [operation])
    | _ => pure known) known

/-- The operations of a description. Extensions among the paths are passed over. -/
def operationsOf (source : Source) : Except Abort (List Operation) := do
  let paths ← Value.fieldEntries "paths" source.entries
  paths.foldlM (fun known (key, node) => do
    let path := key.display
    if path.startsWith "x-" then pure known
    else
      match ← source.followEntries? node with
      | none => pure known
      | some item => addItem source path item known) []

end ApiForge.Import

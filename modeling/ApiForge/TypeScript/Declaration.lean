import ApiForge.Model.Api
import ApiForge.Naming.Unique
import ApiForge.TypeScript.TypeExpr

/-!
# Declarations

The file of types: a declaration for each named schema, then for each operation
one for its parameters, if a path or query has any, one for its body, if it has
one, and one for what it returns. No operation's type has the name of a schema's.
-/

namespace ApiForge.TypeScript

/-- What a name is declared to be. -/
inductive Meaning where
  | members (members : List (Member TypeExpr))
  | type (type : TypeExpr)
  deriving Repr

structure Declaration where
  name : Text
  comment : Option Text
  meaning : Meaning
  deriving Repr

namespace Declaration

/-- The declaration of a schema's type; an object that is never null declares its members. -/
def ofSchema (name : Text) (schema : Schema) : Declaration :=
  let meaning := match schema, TypeExpr.ofSchema schema with
    | .object .., .object members => .members members
    | _, type => .type type
  ⟨name, remark schema.notes.description, meaning⟩

/-- The declaration of an operation's parameters. -/
def ofParameters (name : Text) (parameters : List Parameter) : Declaration :=
  ⟨name, none, .members (parameters.map fun parameter =>
    ⟨parameter.name, !parameter.required, remark parameter.description,
      .ofParameter parameter⟩)⟩

/-- The lines that say what a name means. -/
def meaningLines (name : Text) : Meaning → List Text
  | .members members =>
      ["export interface " ++ name ++ " \x7b"] ++ renderMembers 1 members ++ [['\x7d']]
  | .type type => ["export type " ++ name ++ " = " ++ type.render 0 ++ ";"]

def lines (declaration : Declaration) : List Text :=
  (declaration.comment.map (TypeScript.comment [])).toList ++
    meaningLines declaration.name declaration.meaning

end Declaration

/-- The type of an operation's parameters, if it has fields. -/
def paramsType? (operation : Operation) : Option Text :=
  if operation.fields.isEmpty then none
  else some (Naming.operationType operation.identifier Naming.paramsSuffix)

/-- The type of an operation's body, if it has one. -/
def requestType? (operation : Operation) : Option Text :=
  operation.body.map fun _ => Naming.operationType operation.identifier Naming.requestSuffix

/-- The type of what an operation returns. -/
def responseType (operation : Operation) : Text :=
  Naming.operationType operation.identifier Naming.responseSuffix

/-- The names of the types of an operation. -/
def operationTypes (operation : Operation) : List Text :=
  (paramsType? operation).toList ++ (requestType? operation).toList ++ [responseType operation]

/-- What an operation returns. -/
def responseDeclaration (operation : Operation) : Declaration :=
  match operation.success?.bind (·.schema) with
  | some schema => .ofSchema (responseType operation) schema
  | none => ⟨responseType operation, none, .type (.builtin .void)⟩

/-- The declarations of the types of an operation. -/
def operationDeclarations (operation : Operation) : List Declaration :=
  ((paramsType? operation).map fun name => Declaration.ofParameters name operation.fields).toList ++
    (operation.body.map fun body =>
      Declaration.ofSchema (Naming.operationType operation.identifier Naming.requestSuffix)
        body.schema).toList ++
    [responseDeclaration operation]

/-- The types of an operation are none of the schemas' types; `owners` has the names of schemas
with their types. -/
def checkTypes (owners : List (Text × Text)) (operation : Operation) : Except Failure Unit :=
  let taken := (operationTypes operation).findSome? fun type =>
    (owners.find? (·.2 == type))
  match taken with
  | some (schema, type) => .error (.collision "Type" type schema operation.identifier)
  | none => .ok ()

/-- The declarations of a file of types. -/
structure TypesFile where
  schemas : List Declaration
  operations : List Declaration
  deriving Repr

namespace TypesFile

def ofApi (api : Api) : Except Failure TypesFile := do
  let owners ← Naming.assign "Schema" Naming.schemaType (api.schemas.map (·.1))
  api.operations.forM (checkTypes owners)
  pure {
    schemas := api.schemas.map fun (name, schema) =>
      .ofSchema (Naming.schemaType name) schema
    operations := api.operations.flatMap operationDeclarations }

def declarations (file : TypesFile) : List Declaration :=
  file.schemas ++ file.operations

/-- The lines of declarations with an empty line after each. -/
def spaced (declarations : List Declaration) : List Text :=
  declarations.flatMap fun declaration => declaration.lines ++ [[]]

def schemasTitle : Text :=
  "// ============ Schemas ============"

def operationsTitle : Text :=
  "// ============ Operation Types ============"

def opening : List Text :=
  ["// Auto-generated TypeScript types", "// Do not edit manually", ""]

def render (file : TypesFile) : Text :=
  Text.lines
    (opening ++ [schemasTitle, []] ++ spaced file.schemas ++
      [operationsTitle, []] ++ spaced file.operations)

end TypesFile

end ApiForge.TypeScript

import ApiForge.Document.Display
import ApiForge.Validation.Violation

/-!
# Types of schemas

The type that a schema names must be one of its edition of the description
format. Schemas stand under certain keys, alone or several together, and inside
schemas under others; what is only an example of a value holds none.
-/

namespace ApiForge.Validation

/-- The editions of the description format. -/
inductive Edition where
  | swagger
  | openApi30
  | openApi31
  deriving DecidableEq, Repr

/-- What a node of a description stands for. -/
inductive Role where
  | sample
  | part
  | schema
  | schemas
  deriving DecidableEq, Repr

namespace Role

def sampleKeys : List Text :=
  ["example", "examples", "default", "enum", "const"]

def schemasKeys : List Text :=
  ["properties", "patternProperties", "definitions", "$defs", "allOf", "oneOf", "anyOf"]

def schemaKeys : List Text :=
  ["items", "additionalProperties", "not"]

/-- The role of what stands under a key. -/
def under (role : Role) (key : Text) : Role :=
  match role with
  | .sample => .sample
  | .schemas => .schema
  | .schema =>
      if schemasKeys.contains key then .schemas
      else if schemaKeys.contains key then .schema
      else .sample
  | .part =>
      if sampleKeys.contains key || key.startsWith "x-" then .sample
      else if key = "schema" then .schema
      else if key = "schemas" ∨ key = "definitions" then .schemas
      else .part

/-- The role of the items of a list. -/
def ofItem : Role → Role
  | .schemas => .schema
  | role => role

end Role

namespace Edition

def commonTypes : List Text :=
  ["array", "boolean", "integer", "number", "object", "string"]

/-- The names of types. -/
def types : Edition → List Text
  | .openApi30 => commonTypes
  | .openApi31 => "null".toList :: commonTypes
  | .swagger => ["null", "file"].map String.toList ++ commonTypes

def isName (edition : Edition) (type : Value) : Bool :=
  match type with
  | .scalar (.str name) => edition.types.contains name
  | _ => false

/-- A type is a name or, in most editions, several names. -/
def isType (edition : Edition) (type : Value) : Bool :=
  match type with
  | .list names => edition != .openApi30 && names.all edition.isName
  | type => edition.isName type

/-- What is wrong with the type that a schema names. -/
def typeViolations (edition : Edition) (role : Role) (entries : Entries) : List Violation :=
  if role = .schema then
    match Entries.field? "type" entries with
    | some type => if edition.isType type then [] else [.badType type.display]
    | none => []
  else []

end Edition

mutual

/-- The violations by types of schemas inside a node. -/
def typeViolations (edition : Edition) (role : Role) : Value → List Violation
  | .map entries =>
      edition.typeViolations role entries ++ typeViolationsOfEntries edition role entries
  | .list items => typeViolationsOfItems edition role.ofItem items
  | _ => []
  termination_by structural value => value

def typeViolationsOfEntries (edition : Edition) (role : Role) :
    List (Scalar × Value) → List Violation
  | [] => []
  | (key, value) :: rest =>
      typeViolations edition (role.under key.display) value ++
        typeViolationsOfEntries edition role rest
  termination_by structural entries => entries

def typeViolationsOfItems (edition : Edition) (role : Role) : List Value → List Violation
  | [] => []
  | item :: rest =>
      typeViolations edition role item ++ typeViolationsOfItems edition role rest
  termination_by structural items => items

end

end ApiForge.Validation

import ApiForge.Text.Basic

/-!
# Schemas

The shape of a value that an API takes or gives. A schema is a primitive, an
enumeration, an array, an object or a reference to a named schema, and carries
notes that hold for every kind.
-/

namespace ApiForge

inductive Primitive where
  | string
  | integer
  | number
  | boolean
  | null
  | unknown
  deriving DecidableEq, Repr

namespace Primitive

def name : Primitive → Text
  | .string => "string"
  | .integer => "integer"
  | .number => "number"
  | .boolean => "boolean"
  | .null => "null"
  | .unknown => "unknown"

def all : List Primitive :=
  [.string, .integer, .number, .boolean, .null, .unknown]

def ofName? (name : Text) : Option Primitive :=
  all.find? fun primitive => primitive.name == name

end Primitive

/-- What is said about a schema beside its shape. -/
structure Notes where
  format : Option Text
  description : Option Text
  nullable : Bool
  deriving DecidableEq, Repr

/-- Nothing is said. -/
def Notes.none : Notes :=
  ⟨.none, .none, false⟩

inductive Schema where
  | primitive (notes : Notes) (type : Primitive)
  | enumeration (notes : Notes) (values : List Text)
  | array (notes : Notes) (items : Schema)
  | object (notes : Notes) (properties : List (Text × Schema)) (required : List Text)
      (additional : Option Schema)
  | reference (notes : Notes) (name : Text)
  deriving Repr

/-- The kinds of schemas. -/
inductive SchemaKind where
  | primitive
  | enumeration
  | array
  | object
  | reference
  deriving DecidableEq, Repr

namespace SchemaKind

def name : SchemaKind → Text
  | .primitive => "primitive"
  | .enumeration => "enum"
  | .array => "array"
  | .object => "object"
  | .reference => "reference"

def all : List SchemaKind :=
  [.primitive, .enumeration, .array, .object, .reference]

end SchemaKind

namespace Schema

/-- A value about which nothing is known. -/
def unknown : Schema :=
  .primitive .none .unknown

def kind : Schema → SchemaKind
  | .primitive .. => .primitive
  | .enumeration .. => .enumeration
  | .array .. => .array
  | .object .. => .object
  | .reference .. => .reference

def notes : Schema → Notes
  | .primitive notes _ => notes
  | .enumeration notes _ => notes
  | .array notes _ => notes
  | .object notes _ _ _ => notes
  | .reference notes _ => notes

def isReference (schema : Schema) : Bool :=
  schema.kind == .reference

instance : Inhabited Schema := ⟨unknown⟩

end Schema

end ApiForge

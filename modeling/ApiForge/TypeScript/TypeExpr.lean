import ApiForge.Json.Writer
import ApiForge.Model.Operation
import ApiForge.Naming.Identifier
import ApiForge.TypeScript.Comment

/-!
# Type expressions

The types that generated declarations are made of, as trees, and their text. A
schema and a parameter each have one type. In the text of a list, an item that
holds a union stands in parentheses.
-/

namespace ApiForge.TypeScript

/-- The types that need no declaration. -/
inductive Builtin where
  | string
  | number
  | boolean
  | null
  | unknown
  | never
  | void
  | blob
  deriving DecidableEq, Repr

namespace Builtin

def name : Builtin → Text
  | .string => "string"
  | .number => "number"
  | .boolean => "boolean"
  | .null => "null"
  | .unknown => "unknown"
  | .never => "never"
  | .void => "void"
  | .blob => "Blob"

/-- The type of a primitive value. -/
def ofPrimitive : Primitive → Builtin
  | .string => .string
  | .integer => .number
  | .number => .number
  | .boolean => .boolean
  | .null => .null
  | .unknown => .unknown

/-- The type of a parameter's value with a type name: numbers, truth values, and otherwise texts. -/
def ofTypeName (name : Text) : Builtin :=
  match Primitive.ofName? name with
  | some .integer => .number
  | some .number => .number
  | some .boolean => .boolean
  | _ => .string

end Builtin

/-- One member of an object type. -/
structure Member (α : Type) where
  name : Text
  isOptional : Bool
  comment : Option Text
  type : α
  deriving Repr

inductive TypeExpr where
  | builtin (type : Builtin)
  | named (name : Text)
  | literal (value : Text)
  | union (members : List TypeExpr)
  | list (item : TypeExpr)
  | record (value : TypeExpr)
  | object (members : List (Member TypeExpr))
  deriving Repr

/-- A description that says something. -/
def remark (description : Option Text) : Option Text :=
  description.filter (!·.isEmpty)

namespace TypeExpr

/-- Null is a value of the type because of its name alone. -/
def hasNullName : TypeExpr → Bool
  | .builtin type => type == .null || type == .unknown
  | .named name => name == Builtin.null.name || name == Builtin.unknown.name
  | _ => false

/-- The type that has null beside its own values. -/
def withNull (type : TypeExpr) : TypeExpr :=
  if type.hasNullName then type
  else
    match type with
    | .union members => .union (members ++ [.builtin .null])
    | type => .union [type, .builtin .null]

/-- The type, with null if a schema's notes say so. -/
def noted (notes : Notes) (type : TypeExpr) : TypeExpr :=
  if notes.nullable then type.withNull else type

/-- The values of an enumeration; without any there is no value at all. -/
def ofValues : List Text → TypeExpr
  | [] => .builtin .never
  | values => .union (values.map .literal)

/-- A text in binary form is a blob. -/
def ofPrimitive (notes : Notes) (type : Primitive) : TypeExpr :=
  if type == .string && notes.format == some "binary".toList then .builtin .blob
  else .builtin (.ofPrimitive type)

mutual

/-- The type of the values that fit a schema. -/
def ofSchema : Schema → TypeExpr
  | .primitive notes type => noted notes (ofPrimitive notes type)
  | .enumeration notes values => noted notes (ofValues values)
  | .array notes items => noted notes (.list (ofSchema items))
  | .object notes [] _ additional => noted notes (.record (ofAdditional additional))
  | .object notes (property :: rest) required _ =>
      noted notes (.object (membersOf required (property :: rest)))
  | .reference notes name => noted notes (.named (Naming.schemaType name))
  termination_by structural schema => schema

/-- The members for properties, optional unless their names are required. -/
def membersOf (required : List Text) : List (Text × Schema) → List (Member TypeExpr)
  | [] => []
  | (name, schema) :: rest =>
      ⟨name, !required.contains name, remark schema.notes.description, ofSchema schema⟩ ::
        membersOf required rest
  termination_by structural properties => properties

/-- The type of the values that an object without properties may hold. -/
def ofAdditional : Option Schema → TypeExpr
  | none => .builtin .unknown
  | some schema => ofSchema schema
  termination_by structural additional => additional

end

/-- The type of a parameter's value. -/
def ofParameter (parameter : Parameter) : TypeExpr :=
  if parameter.type = "array".toList then
    .list (.builtin (.ofTypeName (parameter.itemsType.getD "string")))
  else .builtin (.ofTypeName parameter.type)

end TypeExpr

/-- The blanks in front of a line `depth` levels deep. -/
def indent (depth : Nat) : Text :=
  List.replicate (2 * depth) ' '

/-- The lines of a member whose type has the text `type`. -/
def memberLines (depth : Nat) (name : Text) (isOptional : Bool) (remark : Option Text)
    (type : Text) : List Text :=
  let mark : Text := if isOptional then "?" else []
  (remark.map (comment (indent depth))).toList ++
    [indent depth ++ Naming.propertyKey name ++ mark ++ ": " ++ type ++ ";"]

/-- An item of a list, in parentheses if a union can be seen in it. -/
def listItem (item : Text) : Text :=
  if item.holds " | " then "(" ++ item ++ ")" else item

mutual

/-- The text of a type `depth` levels deep. -/
def TypeExpr.render (depth : Nat) : TypeExpr → Text
  | .builtin type => type.name
  | .named name => name
  | .literal value => Json.quote true value
  | .union members => Text.join " | " (renderAll depth members)
  | .list item => listItem (item.render depth) ++ "[]"
  | .record value => "Record<string, " ++ value.render depth ++ ">"
  | .object members =>
      "\x7b\n" ++ Text.lines (renderMembers (depth + 1) members) ++ "\n" ++ indent depth ++ "\x7d"
  termination_by structural type => type

def renderAll (depth : Nat) : List TypeExpr → List Text
  | [] => []
  | type :: rest => type.render depth :: renderAll depth rest
  termination_by structural types => types

/-- The lines of the members of an object. -/
def renderMembers (depth : Nat) : List (Member TypeExpr) → List Text
  | [] => []
  | ⟨name, isOptional, remark, type⟩ :: rest =>
      memberLines depth name isOptional remark (type.render depth) ++ renderMembers depth rest
  termination_by structural members => members

end

end ApiForge.TypeScript

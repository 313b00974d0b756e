import ApiForge.Model.Schema
import ApiForge.Naming.Identifier

/-!
# Meanings of types

What the type of a schema says, apart from its layout: a tree of names,
literals, unions, lists, records and objects. Descriptions have no part in it,
and what counts of the value of a literal is left open.
-/

namespace ApiForge

mutual

/-- The values of the enumerations in the type of a schema, at any depth. -/
def Schema.literals : Schema → List Text
  | .primitive .. => []
  | .enumeration _ values => values
  | .array _ items => items.literals
  | .object _ [] _ additional => literalsOfAdditional additional
  | .object _ (property :: rest) _ _ => literalsOfProperties (property :: rest)
  | .reference .. => []
  termination_by structural schema => schema

def literalsOfProperties : List (Text × Schema) → List Text
  | [] => []
  | (_, schema) :: rest => schema.literals ++ literalsOfProperties rest
  termination_by structural properties => properties

def literalsOfAdditional : Option Schema → List Text
  | none => []
  | some schema => schema.literals
  termination_by structural additional => additional

end

namespace TypeScript

/-- A member of an object type, without its description. -/
structure Field (α : Type) where
  name : Text
  isOptional : Bool
  type : α
  deriving Repr

/-- What a type says. -/
inductive TypeMeaning where
  | named (name : Text)
  | literal (value : Text)
  | union (members : List TypeMeaning)
  | list (item : TypeMeaning)
  | record (value : TypeMeaning)
  | object (fields : List (Field TypeMeaning))
  deriving Repr

namespace TypeMeaning

/-- The meaning is just the name null or the name unknown. -/
def isNullName : TypeMeaning → Bool
  | .named name => name == "null".toList || name == "unknown".toList
  | _ => false

/-- The name null is appended to the union. -/
def withNull (meaning : TypeMeaning) : TypeMeaning :=
  if meaning.isNullName then meaning
  else
    match meaning with
    | .union members => .union (members ++ [.named "null"])
    | meaning => .union [meaning, .named "null"]

theorem withNull_of_simple {meaning : TypeMeaning} (other : meaning.isNullName = false)
    (simple : ∀ members, meaning ≠ .union members) :
    meaning.withNull = .union [meaning, .named "null"] := by
  cases meaning with
  | union members => exact absurd rfl (simple members)
  | _ => exact if_neg (Bool.eq_false_iff.mp other)

def noted (notes : Notes) (meaning : TypeMeaning) : TypeMeaning :=
  if notes.nullable then meaning.withNull else meaning

/-- The name of a primitive in a format. -/
def primitiveName (format : Option Text) : Primitive → Text
  | .string => if format = some "binary".toList then "Blob" else "string"
  | .integer => "number"
  | .number => "number"
  | .boolean => "boolean"
  | .null => "null"
  | .unknown => "unknown"

/-- The union of the literals in order; without any there is no value at all. -/
def ofValues (seen : Text → Text) : List Text → TypeMeaning
  | [] => .named "never"
  | values => .union (values.map fun value => .literal (seen value))

mutual

/-- The meaning of the type of a schema, where `seen` is what counts of the value of a literal. -/
def ofSchema (seen : Text → Text) : Schema → TypeMeaning
  | .primitive notes type => noted notes (.named (primitiveName notes.format type))
  | .enumeration notes values => noted notes (ofValues seen values)
  | .array notes items => noted notes (.list (ofSchema seen items))
  | .object notes [] _ additional => noted notes (.record (ofAdditional seen additional))
  | .object notes (property :: rest) required _ =>
      noted notes (.object (fieldsOf seen required (property :: rest)))
  | .reference notes name => noted notes (.named (Naming.schemaType name))
  termination_by structural schema => schema

/-- The fields for properties in order, optional unless their names are required. -/
def fieldsOf (seen : Text → Text) (required : List Text) :
    List (Text × Schema) → List (Field TypeMeaning)
  | [] => []
  | (name, schema) :: rest =>
      ⟨name, !required.contains name, ofSchema seen schema⟩ :: fieldsOf seen required rest
  termination_by structural properties => properties

def ofAdditional (seen : Text → Text) : Option Schema → TypeMeaning
  | none => .named "unknown"
  | some schema => ofSchema seen schema
  termination_by structural additional => additional

end

section

variable {seen other : Text → Text}

theorem ofValues_congr {values : List Text} (same : ∀ value ∈ values, seen value = other value) :
    ofValues seen values = ofValues other values := by
  cases values with
  | nil => rfl
  | cons first rest =>
      have literals : (first :: rest).map (fun value => TypeMeaning.literal (seen value)) =
          (first :: rest).map fun value => TypeMeaning.literal (other value) :=
        List.map_congr_left fun value member => congrArg _ (same value member)
      exact congrArg TypeMeaning.union literals

mutual

/-- Only what counts of the values that occur is part of the meaning. -/
theorem ofSchema_congr : (schema : Schema) →
    (∀ value ∈ schema.literals, seen value = other value) →
    ofSchema seen schema = ofSchema other schema
  | .primitive .. => fun _ => rfl
  | .enumeration notes _ => fun same => congrArg (noted notes) (ofValues_congr same)
  | .array notes items => fun same =>
      congrArg (noted notes <| .list ·) (ofSchema_congr items same)
  | .object notes [] _ additional => fun same =>
      congrArg (noted notes <| .record ·) (ofAdditional_congr additional same)
  | .object notes (property :: rest) required _ => fun same =>
      congrArg (noted notes <| .object ·) (fieldsOf_congr required (property :: rest) same)
  | .reference .. => fun _ => rfl
  termination_by structural schema => schema

theorem fieldsOf_congr (required : List Text) : (properties : List (Text × Schema)) →
    (∀ value ∈ literalsOfProperties properties, seen value = other value) →
    fieldsOf seen required properties = fieldsOf other required properties
  | [] => fun _ => rfl
  | (name, schema) :: rest => fun same => by
      have first := ofSchema_congr schema fun value member =>
        same value (List.mem_append_left _ member)
      have others := fieldsOf_congr required rest fun value member =>
        same value (List.mem_append_right _ member)
      rw [fieldsOf, fieldsOf, first, others]
  termination_by structural properties => properties

theorem ofAdditional_congr : (additional : Option Schema) →
    (∀ value ∈ literalsOfAdditional additional, seen value = other value) →
    ofAdditional seen additional = ofAdditional other additional
  | none => fun _ => rfl
  | some schema => ofSchema_congr schema
  termination_by structural additional => additional

end

end

end TypeMeaning

end TypeScript

end ApiForge

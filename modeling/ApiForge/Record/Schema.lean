import ApiForge.Model.Schema
import ApiForge.Record.Field
import ApiForge.Record.Scalar

/-!
# Schema records

A schema as a flat record: the kind beside one optional field for each kind of
content. The content must be that of the kind and no other, and only objects
have required names and additional properties.
-/

namespace ApiForge.Record

/-- The fields of a schema record; what the records inside it are read to is an `α`. -/
structure SchemaFields (α : Type) where
  kind : SchemaKind
  type : Option Text
  notes : Notes
  properties : Option (List (Text × α))
  required : List Text
  additional : Option α
  items : Option α
  values : Option (List Text)
  reference : Option Text
  deriving Repr

namespace SchemaFields

section Content

variable {α : Type}

/-- The content of a kind is there. -/
def has (fields : SchemaFields α) : SchemaKind → Bool
  | .primitive => fields.type.isSome
  | .enumeration => fields.values.isSome
  | .array => fields.items.isSome
  | .object => fields.properties.isSome
  | .reference => fields.reference.isSome

/-- The kinds whose content is there. -/
def populated (fields : SchemaFields α) : List SchemaKind :=
  SchemaKind.all.filter fields.has

/-- The content is not that of the kind alone. -/
def mixed (fields : SchemaFields α) : FieldCause :=
  let names : Text := match fields.populated with
    | [] => "none"
    | kinds => Text.join ", " (kinds.map (·.name))
  .inconsistent (fields.kind.name ++
    " schema must populate exactly its own variant (populated: " ++ names ++ ")")

/-- Something is said that only an object has. -/
def saysOfObjects (fields : SchemaFields α) : Bool :=
  !fields.required.isEmpty || fields.additional.isSome

end Content

/-- The schema with this content, unless something is said that only an object has. -/
def plain (fields : SchemaFields Schema) (schema : Checked Schema) : Checked Schema :=
  if fields.saysOfObjects then
    Checked.refuse (.inconsistent "required_fields/additional_properties are object-only")
  else schema

/-- The schema of a primitive. -/
def ofPrimitive (notes : Notes) (type : Text) : Checked Schema :=
  match Primitive.ofName? type with
  | some primitive => .ok (.primitive notes primitive)
  | none => Checked.refuse (.inconsistent ("Unknown primitive type: " ++ type))

/-- The schema that the fields make up. -/
def toSchema (fields : SchemaFields Schema) : Checked Schema :=
  match fields.kind, fields.type, fields.values, fields.items, fields.properties,
      fields.reference with
  | .primitive, some type, none, none, none, none => fields.plain (ofPrimitive fields.notes type)
  | .enumeration, none, some values, none, none, none =>
      fields.plain (.ok (.enumeration fields.notes values))
  | .array, none, none, some items, none, none => fields.plain (.ok (.array fields.notes items))
  | .object, none, none, none, some properties, none =>
      .ok (.object fields.notes properties fields.required fields.additional)
  | .reference, none, none, none, none, some name =>
      fields.plain (.ok (.reference fields.notes name))
  | _, _, _, _, _, _ => Checked.refuse fields.mixed

end SchemaFields

/-- One of some names. -/
def named {α : Type} (choices : List α) (name : α → Text) (value : Value) : Checked α :=
  match value.text?.bind fun text => choices.find? (name · == text) with
  | some choice => .ok choice
  | none => Checked.refuse (.notOneOf (choices.map name))

/-- The fields of a schema record, whose inner records are read already. -/
def fieldsWith {α : Type} (entries : Entries) (properties : Checked (Option (List (Text × α))))
    (additional items : Checked (Option α)) : Checked (SchemaFields α) :=
  let kind := Checked.field "kind" entries (named SchemaKind.all SchemaKind.name)
  let type := Checked.fieldIfAny "primitive_type" entries Checked.text
  let format := Checked.fieldIfAny "format" entries Checked.text
  let description := Checked.fieldIfAny "description" entries Checked.text
  let nullable := Checked.fieldOr "nullable" entries false Checked.truth
  let required := Checked.fieldOr "required_fields" entries [] Checked.members
  let values := Checked.fieldIfAny "enum_values" entries (Checked.listOr .notSequence Checked.text)
  let reference := Checked.fieldIfAny "reference_name" entries Checked.text
  let make (kind : SchemaKind) (type format description : Option Text) (nullable : Bool)
      (properties : Option (List (Text × α))) (required : List Text)
      (additional items : Option α) (values : Option (List Text))
      (reference : Option Text) : SchemaFields α :=
    { kind, type, notes := ⟨format, description, nullable⟩, properties, required, additional,
      items, values, reference }
  (kind.map make) |>.and type |>.and format |>.and description |>.and nullable |>.and properties
    |>.and required |>.and additional |>.and items |>.and values |>.and reference

/-- Reads a schema record with the records inside it. The fields of each record, when they are all
read, end in what `finish` makes of them. -/
def schemaWith {α : Type} (finish : SchemaFields α → Checked α) (value : Value) : Checked α :=
  match value with
  | .map entries =>
      let properties := Checked.fieldFrom "properties" entries fun value _found =>
        match _shape : value with
        | .map inner =>
            Checked.all (inner.attach.map fun ⟨(key, value), _⟩ =>
              ((schemaWith finish value).within key.display).map fun schema =>
                (key.display, schema))
        | _ => Checked.refuse .notMapping
      let additional := Checked.fieldFrom "additional_properties" entries fun value _found =>
        schemaWith finish value
      let items := Checked.fieldFrom "items" entries fun value _found => schemaWith finish value
      match fieldsWith entries properties additional items with
      | .ok fields => finish fields
      | .error faults => .error faults
  | _ => Checked.refuse (.notRecord "ParsedSchema")
termination_by value.height
decreasing_by
  · next inEntries =>
      have outer := Value.height_field_le _found
      have inner := Value.height_le_of_mem_entries inEntries
      simp only [Value.height] at outer ⊢
      omega
  · have := Value.height_field_le _found
    simp only [Value.height]
    omega
  · have := Value.height_field_le _found
    simp only [Value.height]
    omega

/-- Reads a schema from its record. -/
def schema : Value → Checked Schema :=
  schemaWith SchemaFields.toSchema

end ApiForge.Record

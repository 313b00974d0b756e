import ApiForge.Markdown.Page
import ApiForge.Proofs.Success
import ApiForge.Record.Schema
import ApiForge.TypeScript.Declaration
import Mathlib.Data.Set.List

/-!
# Contents of schema records

A schema record may hold the content of any kind, of several or of none. The
record of a schema holds the content of its kind and no other, and so does every
record inside it; therefore whoever goes by the kind finds the content there.
-/

namespace ApiForge.Record

open Success (all_cons_eq_ok_iff checkedMap_eq_ok_iff within_eq_ok_iff)
open TypeScript (Declaration Member Meaning TypeExpr remark)

/-! ## Records as they are given -/

/-- A schema record with whatever it holds. -/
inductive SchemaRecord where
  | record (fields : SchemaFields SchemaRecord)

namespace SchemaFields

variable {α β : Type}

/-- What is right inside: the properties, the additional ones and the items. -/
def inner (fields : SchemaFields α) : List α :=
  (fields.properties.getD []).map (·.2) ++ fields.additional.toList ++ fields.items.toList

theorem mem_inner {fields : SchemaFields α} {held : α} :
    held ∈ fields.inner ↔
      (∃ properties, fields.properties = some properties ∧ ∃ name, (name, held) ∈ properties) ∨
        fields.additional = some held ∨ fields.items = some held := by
  unfold inner
  cases fields.properties <;> simp

/-- The fields with what is inside changed. -/
def map (change : α → β) (fields : SchemaFields α) : SchemaFields β where
  kind := fields.kind
  type := fields.type
  notes := fields.notes
  properties := fields.properties.map (List.map fun property => (property.1, change property.2))
  required := fields.required
  additional := fields.additional.map change
  items := fields.items.map change
  values := fields.values
  reference := fields.reference

/-- The content is that of the kind alone, and only an object says what objects say. -/
structure IsSound (fields : SchemaFields α) : Prop where
  content : fields.populated = [fields.kind]
  ofObject : fields.kind ≠ .object → fields.required = [] ∧ fields.additional = none
  known : ∀ type, fields.type = some type → ∃ primitive, Primitive.ofName? type = some primitive

end SchemaFields

namespace SchemaRecord

def fields : SchemaRecord → SchemaFields SchemaRecord
  | .record fields => fields

/-- The record of any fields. -/
def ofFields (fields : SchemaFields SchemaRecord) : Checked SchemaRecord :=
  .ok (.record fields)

/-- Reads a record with the records inside it, whatever their contents are. -/
def read : Value → Checked SchemaRecord :=
  schemaWith ofFields

/-- The first record is the second or stands inside it, at any depth. -/
inductive IsInside : SchemaRecord → SchemaRecord → Prop where
  | here (record : SchemaRecord) : IsInside record record
  | deeper {node held : SchemaRecord} {fields : SchemaFields SchemaRecord}
      (member : held ∈ fields.inner) (inside : IsInside node held) : IsInside node (.record fields)

/-! ## Uses of records -/

/-- The type of a primitive by its name. -/
def typeOfName (notes : Notes) (name : Text) : TypeExpr :=
  if name == "string" && notes.format == some "binary".toList then .builtin .blob
  else
    match Primitive.ofName? name with
    | some type => .builtin (.ofPrimitive type)
    | none => .builtin .unknown

mutual

/-- The type of the values that fit a record, if no content is missing on the way. -/
def type? : SchemaRecord → Option TypeExpr
  | .record { kind := .reference, notes, reference := some name, .. } =>
      some (.noted notes (.named (Naming.schemaType name)))
  | .record { kind := .enumeration, notes, values := some values, .. } =>
      some (.noted notes (.ofValues values))
  | .record { kind := .array, notes, items := some items, .. } =>
      items.type?.map fun type => .noted notes (.list type)
  | .record { kind := .object, notes, properties := some [], additional, .. } =>
      (additionalType? additional).map fun type => .noted notes (.record type)
  | .record { kind := .object, notes, properties := some (property :: rest), required, .. } =>
      (members? required (property :: rest)).map fun members => .noted notes (.object members)
  | .record { kind := .primitive, notes, type := some name, .. } =>
      some (.noted notes (typeOfName notes name))
  | _ => none
  termination_by structural record => record

def members? (required : List Text) : List (Text × SchemaRecord) → Option (List (Member TypeExpr))
  | [] => some []
  | (name, held) :: rest =>
      match held.type?, members? required rest with
      | some type, some members =>
          let comment := remark held.fields.notes.description
          some (⟨name, !required.contains name, comment, type⟩ :: members)
      | _, _ => none
  termination_by structural properties => properties

def additionalType? : Option SchemaRecord → Option TypeExpr
  | none => some (.builtin .unknown)
  | some held => held.type?
  termination_by structural additional => additional

end

/-- The declaration of a record's type under a name; an object that is never null declares its
members. -/
def declaration? (name : Text) (record : SchemaRecord) : Option Declaration :=
  let fields := record.fields
  let meaning? : Option Meaning := match fields.kind, fields.notes.nullable, fields.properties with
    | .object, false, some (property :: rest) =>
        (members? fields.required (property :: rest)).map .members
    | _, _, _ => record.type?.map .type
  meaning?.map fun meaning => ⟨name, remark fields.notes.description, meaning⟩

/-- The label of a primitive by its name. -/
def labelOfName (notes : Notes) (name : Text) : Text :=
  match notes.format.filter (!·.isEmpty) with
  | some format => Markdown.ticked name ++ " (" ++ Markdown.cell (some format) ++ ")"
  | none => Markdown.ticked name

mutual

/-- The label of a record, if no content is missing on the way. -/
def label? : SchemaRecord → Option Text
  | .record { kind := .reference, notes, reference := some name, .. } =>
      some (Markdown.noted notes (Markdown.ticked (Naming.schemaType name)))
  | .record { kind := .enumeration, notes, values := some values, .. } =>
      some (Markdown.noted notes (Markdown.valuesLabel values))
  | .record { kind := .array, notes, items := some items, .. } =>
      items.label?.map fun label => Markdown.noted notes (label ++ "[]")
  | .record { kind := .object, notes, properties := some [], additional, .. } =>
      (additionalLabel? additional).map (Markdown.noted notes)
  | .record { kind := .object, notes, properties := some (_ :: _), .. } =>
      some (Markdown.noted notes "\x60object\x60")
  | .record { kind := .primitive, notes, type := some name, .. } =>
      some (Markdown.noted notes (labelOfName notes name))
  | _ => none
  termination_by structural record => record

def additionalLabel? : Option SchemaRecord → Option Text
  | none => some "\x60object\x60"
  | some held => held.label?.map ("map of " ++ ·)
  termination_by structural additional => additional

end

/-- The table of a record's fields, if no content is missing on the way. -/
def table? : SchemaRecord → Option (List Markdown.Field)
  | .record { kind := .object, properties := some properties, required, .. } =>
      properties.mapM fun (name, held) => held.label?.map fun label =>
        ⟨name, label, required.contains name, held.fields.notes.description⟩
  | .record { kind := .object, properties := none, .. } => none
  | _ => some []

/-- Without the content of its kind a record has no type, no declaration and no label. -/
theorem unusable_of_missing {fields : SchemaFields SchemaRecord}
    (missing : fields.has fields.kind = false) :
    (record fields).type? = none ∧ (∀ name, (record fields).declaration? name = none) ∧
      (record fields).label? = none := by
  obtain ⟨kind, type, ⟨format, description, nullable⟩, properties, required, additional, items,
    values, reference⟩ := fields
  cases kind <;> cases Option.not_isSome_iff_eq_none.mp (Bool.eq_false_iff.mp missing)
  case object => cases nullable <;> exact ⟨rfl, fun _ => rfl, rfl⟩
  all_goals exact ⟨rfl, fun _ => rfl, rfl⟩

end SchemaRecord

/-! ## The records of schemas -/

namespace SchemaFields

/-- A record without content. -/
def bare {α : Type} (kind : SchemaKind) (notes : Notes) : SchemaFields α :=
  ⟨kind, none, notes, none, [], none, none, none, none⟩

/-- The fields that make up a schema. -/
def ofSchema : Schema → SchemaFields Schema
  | .primitive notes type => { bare .primitive notes with type := some type.name }
  | .enumeration notes values => { bare .enumeration notes with values := some values }
  | .array notes items => { bare .array notes with items := some items }
  | .object notes properties required additional =>
      { bare .object notes with properties := some properties, required, additional }
  | .reference notes name => { bare .reference notes with reference := some name }

theorem ofName?_eq_some_iff {name : Text} {type : Primitive} :
    Primitive.ofName? name = some type ↔ type.name = name := by
  constructor
  · intro found
    have passed := List.find?_some (p := fun type : Primitive => type.name == name) found
    exact eq_of_beq passed
  · rintro rfl
    cases type <;> rfl

theorem plain_eq_ok_iff {fields : SchemaFields Schema} {checked : Checked Schema} {schema : Schema} :
    fields.plain checked = .ok schema ↔
      checked = .ok schema ∧ fields.required = [] ∧ fields.additional = none := by
  unfold plain saysOfObjects
  cases fields.required <;> cases fields.additional <;> simp [Checked.refuse]

theorem ofPrimitive_eq_ok_iff {notes : Notes} {type : Text} {schema : Schema} :
    ofPrimitive notes type = .ok schema ↔
      ∃ primitive : Primitive, primitive.name = type ∧ schema = .primitive notes primitive := by
  unfold ofPrimitive
  constructor
  · intro accepted
    split at accepted
    next primitive found =>
      exact ⟨primitive, ofName?_eq_some_iff.mp found, (Except.ok.inj accepted).symm⟩
    · cases accepted
  · rintro ⟨primitive, same, rfl⟩
    rw [ofName?_eq_some_iff.mpr same]

/-- The fields make up a schema if and only if they are its fields. -/
theorem toSchema_eq_ok_iff {fields : SchemaFields Schema} {schema : Schema} :
    fields.toSchema = .ok schema ↔ fields = ofSchema schema := by
  constructor
  · fun_cases toSchema fields <;> intro accepted
    case case1 =>
      obtain ⟨made, nothingSaid⟩ := plain_eq_ok_iff.mp accepted
      obtain ⟨primitive, rfl, rfl⟩ := ofPrimitive_eq_ok_iff.mp made
      cases fields
      simp_all [ofSchema, bare]
    case case4 =>
      cases accepted
      cases fields
      simp_all [ofSchema, bare]
    case case6 => cases accepted
    all_goals
      obtain ⟨made, nothingSaid⟩ := plain_eq_ok_iff.mp accepted
      cases made
      cases fields
      simp_all [ofSchema, bare]
  · rintro rfl
    cases schema with
    | primitive notes type =>
        exact plain_eq_ok_iff.mpr ⟨ofPrimitive_eq_ok_iff.mpr ⟨type, rfl, rfl⟩, rfl, rfl⟩
    | _ => rfl

theorem mem_populated {α : Type} {fields : SchemaFields α} {kind : SchemaKind} :
    kind ∈ fields.populated ↔ fields.has kind = true := by
  have listed : kind ∈ SchemaKind.all := by cases kind <;> decide
  exact List.mem_filter.trans (and_iff_right listed)

theorem IsSound.has_iff {α : Type} {fields : SchemaFields α} (sound : fields.IsSound)
    (kind : SchemaKind) : fields.has kind = true ↔ kind = fields.kind := by
  rw [← mem_populated, sound.content, List.mem_singleton]

theorem isSound_ofSchema (schema : Schema) : (ofSchema schema).IsSound := by
  cases schema with
  | primitive notes type =>
      refine ⟨rfl, fun _ => ⟨rfl, rfl⟩, ?_⟩
      rintro _ ⟨⟩
      exact ⟨type, ofName?_eq_some_iff.mpr rfl⟩
  | object notes properties required additional =>
      exact ⟨rfl, fun other => absurd rfl other, fun _ none => nomatch none⟩
  | _ => exact ⟨rfl, fun _ => ⟨rfl, rfl⟩, fun _ none => nomatch none⟩

/-- Sound fields make up a schema. -/
theorem IsSound.exists_ofSchema {fields : SchemaFields Schema} (sound : fields.IsSound) :
    ∃ schema, fields = ofSchema schema := by
  have hasType := sound.has_iff .primitive
  have hasValues := sound.has_iff .enumeration
  have hasItems := sound.has_iff .array
  have hasProperties := sound.has_iff .object
  have hasReference := sound.has_iff .reference
  obtain ⟨-, ofObject, known⟩ := sound
  obtain ⟨kind, type, notes, properties, required, additional, items, values, reference⟩ := fields
  -- the content of the kind is there, and that of the other kinds is not
  cases kind <;>
    simp only [has, reduceCtorEq, iff_true, iff_false, Option.isSome_iff_exists, not_exists,
      ← Option.eq_none_iff_forall_ne_some] at hasType hasValues hasItems hasProperties hasReference
  case primitive =>
    obtain ⟨name, rfl⟩ := hasType
    obtain ⟨primitive, same⟩ := known name rfl
    obtain rfl := ofName?_eq_some_iff.mp same
    obtain ⟨rfl, rfl⟩ := ofObject nofun
    subst_vars
    exact ⟨.primitive notes primitive, rfl⟩
  case enumeration =>
    obtain ⟨texts, rfl⟩ := hasValues
    obtain ⟨rfl, rfl⟩ := ofObject nofun
    subst_vars
    exact ⟨.enumeration notes texts, rfl⟩
  case array =>
    obtain ⟨item, rfl⟩ := hasItems
    obtain ⟨rfl, rfl⟩ := ofObject nofun
    subst_vars
    exact ⟨.array notes item, rfl⟩
  case object =>
    obtain ⟨listed, rfl⟩ := hasProperties
    subst_vars
    exact ⟨.object notes listed required additional, rfl⟩
  case reference =>
    obtain ⟨name, rfl⟩ := hasReference
    obtain ⟨rfl, rfl⟩ := ofObject nofun
    subst_vars
    exact ⟨.reference notes name, rfl⟩

/-! ## Fields with other records inside -/

section Change

variable {α β : Type} {change : α → β} {fields : SchemaFields α}

theorem inner_map : (fields.map change).inner = fields.inner.map change := by
  obtain ⟨kind, type, notes, properties, required, additional, items, values, reference⟩ := fields
  cases properties <;> cases additional <;> cases items <;> simp [inner, map]

theorem isSound_map_iff : (fields.map change).IsSound ↔ fields.IsSound := by
  have same : (fields.map change).populated = fields.populated :=
    List.filter_congr fun kind _ => by cases kind <;> simp [has, map]
  constructor
  · rintro ⟨content, ofObject, known⟩
    refine ⟨same ▸ content, fun other => ?_, known⟩
    exact (ofObject other).imp_right Option.map_eq_none_iff.mp
  · rintro ⟨content, ofObject, known⟩
    refine ⟨same ▸ content, fun other => ?_, known⟩
    exact (ofObject other).imp_right Option.map_eq_none_iff.mpr

theorem exists_eq_optionMap {held : Option β}
    (changed : ∀ value ∈ held, ∃ given, change given = value) :
    ∃ given : Option α, held = given.map change := by
  cases held with
  | none => exact ⟨none, rfl⟩
  | some value =>
      obtain ⟨given, rfl⟩ := changed value rfl
      exact ⟨some given, rfl⟩

/-- Fields that hold changed records only are changed fields. -/
theorem exists_eq_map {fields : SchemaFields β}
    (changed : ∀ held ∈ fields.inner, ∃ given, change given = held) :
    ∃ given : SchemaFields α, fields = given.map change := by
  obtain ⟨kind, type, notes, properties, required, additional, items, values, reference⟩ := fields
  obtain ⟨listed, sameProperties⟩ : ∃ listed : Option (List (Text × α)), properties =
      listed.map (List.map fun property : Text × α => (property.1, change property.2)) := by
    refine exists_eq_optionMap fun inside some => ?_
    cases some
    refine (Set.ext_iff.mp (Set.range_list_map _) inside).mpr fun property member => ?_
    obtain ⟨given, same⟩ := changed property.2 (mem_inner.mpr (.inl ⟨_, rfl, property.1, member⟩))
    exact ⟨(property.1, given), Prod.ext rfl same⟩
  obtain ⟨more, sameAdditional⟩ : ∃ more : Option α, additional = more.map change :=
    exists_eq_optionMap fun held some => changed held (mem_inner.mpr (.inr (.inl some)))
  obtain ⟨item, sameItems⟩ : ∃ item : Option α, items = item.map change :=
    exists_eq_optionMap fun held some => changed held (mem_inner.mpr (.inr (.inr some)))
  refine ⟨⟨kind, type, notes, listed, required, more, item, values, reference⟩, ?_⟩
  rw [sameProperties, sameAdditional, sameItems]
  rfl

end Change

end SchemaFields

namespace SchemaRecord

open SchemaFields (bare)

mutual

/-- The record of a schema. -/
def ofSchema : Schema → SchemaRecord
  | .primitive notes type => .record { bare .primitive notes with type := some type.name }
  | .enumeration notes values => .record { bare .enumeration notes with values := some values }
  | .array notes items => .record { bare .array notes with items := some (ofSchema items) }
  | .object notes properties required additional =>
      .record { bare .object notes with
        properties := some (ofProperties properties)
        required
        additional := ofAdditional additional }
  | .reference notes name => .record { bare .reference notes with reference := some name }
  termination_by structural schema => schema

def ofProperties : List (Text × Schema) → List (Text × SchemaRecord)
  | [] => []
  | (name, schema) :: rest => (name, ofSchema schema) :: ofProperties rest
  termination_by structural properties => properties

def ofAdditional : Option Schema → Option SchemaRecord
  | none => none
  | some schema => some (ofSchema schema)
  termination_by structural additional => additional

end

theorem ofProperties_eq (properties : List (Text × Schema)) :
    ofProperties properties = properties.map fun property => (property.1, ofSchema property.2) := by
  induction properties with
  | nil => rfl
  | cons property rest ih => rw [ofProperties, ih]; rfl

theorem ofAdditional_eq (additional : Option Schema) :
    ofAdditional additional = additional.map ofSchema := by
  cases additional <;> rfl

theorem ofSchema_eq (schema : Schema) :
    ofSchema schema = .record ((SchemaFields.ofSchema schema).map ofSchema) := by
  cases schema with
  | object notes properties required additional =>
      rw [ofSchema, ofProperties_eq, ofAdditional_eq]
      rfl
  | _ => rfl

theorem sizeOf_lt_of_mem_inner {fields : SchemaFields SchemaRecord} {held : SchemaRecord}
    (member : held ∈ fields.inner) : sizeOf held < sizeOf (record fields) := by
  obtain ⟨kind, type, notes, properties, required, additional, items, values, reference⟩ := fields
  simp only [record.sizeOf_spec, SchemaFields.mk.sizeOf_spec]
  rcases SchemaFields.mem_inner.mp member with ⟨listed, rfl, name, member⟩ | rfl | rfl
  · have below := List.sizeOf_lt_of_mem member
    simp only [Option.some.sizeOf_spec, Prod.mk.sizeOf_spec] at below ⊢
    omega
  · simp only [Option.some.sizeOf_spec]
    omega
  · simp only [Option.some.sizeOf_spec]
    omega

/-- Everything inside the record of a schema is the record of a schema. -/
theorem IsInside.exists_ofSchema {node record : SchemaRecord} (inside : IsInside node record) :
    ∀ schema, record = ofSchema schema → ∃ inner, node = ofSchema inner := by
  induction inside with
  | here => exact fun schema same => ⟨schema, same⟩
  | deeper member _ ih =>
      intro schema same
      rw [ofSchema_eq] at same
      cases same
      rw [SchemaFields.inner_map] at member
      obtain ⟨inner, -, same⟩ := List.mem_map.mp member
      exact ih inner same.symm

theorem isSound_fields_ofSchema (schema : Schema) : (ofSchema schema).fields.IsSound := by
  rw [ofSchema_eq]
  exact SchemaFields.isSound_map_iff.mpr (SchemaFields.isSound_ofSchema schema)

/-- The records of schemas are those in which every record is sound. -/
theorem exists_ofSchema_iff (record : SchemaRecord) :
    (∃ schema, record = ofSchema schema) ↔ ∀ node, IsInside node record → node.fields.IsSound := by
  constructor
  · rintro ⟨schema, rfl⟩ node inside
    obtain ⟨inner, rfl⟩ := inside.exists_ofSchema schema rfl
    exact isSound_fields_ofSchema inner
  · intro sound
    obtain ⟨fields⟩ := record
    have changed (held : SchemaRecord) (member : held ∈ fields.inner) :
        ∃ schema, ofSchema schema = held := by
      have smaller := sizeOf_lt_of_mem_inner member
      obtain ⟨schema, same⟩ := (exists_ofSchema_iff held).mpr fun node inside =>
        sound node (.deeper member inside)
      exact ⟨schema, same.symm⟩
    obtain ⟨given, rfl⟩ := SchemaFields.exists_eq_map changed
    obtain ⟨schema, rfl⟩ := (SchemaFields.isSound_map_iff.mp (sound _ (.here _))).exists_ofSchema
    exact ⟨schema, (ofSchema_eq schema).symm⟩
termination_by sizeOf record
decreasing_by exact smaller

end SchemaRecord

/-! ## Reading -/

section Reading

variable {α β : Type} {change : α → β}

/-- The fields that hold no records are read from the entries. -/
structure AreReadFrom (fields : SchemaFields α) (entries : Entries) : Prop where
  kind : Checked.field "kind" entries (named SchemaKind.all SchemaKind.name) = .ok fields.kind
  type : Checked.fieldIfAny "primitive_type" entries Checked.text = .ok fields.type
  format : Checked.fieldIfAny "format" entries Checked.text = .ok fields.notes.format
  description : Checked.fieldIfAny "description" entries Checked.text = .ok fields.notes.description
  nullable : Checked.fieldOr "nullable" entries false Checked.truth = .ok fields.notes.nullable
  required : Checked.fieldOr "required_fields" entries [] Checked.members = .ok fields.required
  values : Checked.fieldIfAny "enum_values" entries (Checked.listOr .notSequence Checked.text) =
    .ok fields.values
  reference : Checked.fieldIfAny "reference_name" entries Checked.text = .ok fields.reference

theorem fieldsWith_eq_ok_iff {entries : Entries} {properties : Checked (Option (List (Text × α)))}
    {additional items : Checked (Option α)} {fields : SchemaFields α} :
    fieldsWith entries properties additional items = .ok fields ↔
      AreReadFrom fields entries ∧ properties = .ok fields.properties ∧
        additional = .ok fields.additional ∧ items = .ok fields.items := by
  unfold fieldsWith
  constructor
  · intro accepted
    obtain ⟨_, _, withValues, reference, rfl⟩ := Success.of_and accepted
    obtain ⟨_, _, withItems, values, rfl⟩ := Success.of_and withValues
    obtain ⟨_, _, withAdditional, items, rfl⟩ := Success.of_and withItems
    obtain ⟨_, _, withRequired, additional, rfl⟩ := Success.of_and withAdditional
    obtain ⟨_, _, withProperties, required, rfl⟩ := Success.of_and withRequired
    obtain ⟨_, _, withNullable, properties, rfl⟩ := Success.of_and withProperties
    obtain ⟨_, _, withDescription, nullable, rfl⟩ := Success.of_and withNullable
    obtain ⟨_, _, withFormat, description, rfl⟩ := Success.of_and withDescription
    obtain ⟨_, _, withType, format, rfl⟩ := Success.of_and withFormat
    obtain ⟨_, _, withKind, type, rfl⟩ := Success.of_and withType
    obtain ⟨_, kind, rfl⟩ := Success.of_checkedMap withKind
    exact ⟨⟨kind, type, format, description, nullable, required, values, reference⟩, properties,
      additional, items⟩
  · rintro ⟨⟨kind, type, format, description, nullable, required, values, reference⟩, properties,
      additional, items⟩
    rw [kind, type, format, description, nullable, required, values, reference, properties,
      additional, items]
    rfl

/-- Fields are read with changed records inside, if each record inside is. -/
theorem fieldsWith_map {entries : Entries} {properties : Checked (Option (List (Text × α)))}
    {additional items : Checked (Option α)} {properties' : Checked (Option (List (Text × β)))}
    {additional' items' : Checked (Option β)}
    (sameProperties : ∀ listed, properties = .ok listed ↔ properties' = .ok
      (listed.map (List.map fun property => (property.1, change property.2))))
    (sameAdditional : ∀ held, additional = .ok held ↔ additional' = .ok (held.map change))
    (sameItems : ∀ held, items = .ok held ↔ items' = .ok (held.map change))
    (fields : SchemaFields α) :
    fieldsWith entries properties additional items = .ok fields ↔
      fieldsWith entries properties' additional' items' = .ok (fields.map change) := by
  rw [fieldsWith_eq_ok_iff, fieldsWith_eq_ok_iff, sameProperties, sameAdditional, sameItems]
  refine and_congr_left fun _ => ⟨?_, ?_⟩
  all_goals
    rintro ⟨kind, type, format, description, nullable, required, values, reference⟩
    exact ⟨kind, type, format, description, nullable, required, values, reference⟩

theorem refuse_iff {cause : FieldCause} {made : α} {other : β} :
    (Checked.refuse cause : Checked α) = .ok made ↔ (Checked.refuse cause : Checked β) = .ok other :=
  ⟨nofun, nofun⟩

theorem absent_iff (held : Option α) :
    (.ok none : Checked (Option α)) = .ok held ↔
      (.ok none : Checked (Option β)) = .ok (held.map change) := by
  cases held with
  | none => exact ⟨fun _ => rfl, fun _ => rfl⟩
  | some given => exact ⟨nofun, nofun⟩

/-- A field is read as a changed value, if its value is. -/
theorem fieldFrom_map {name : Text} {entries : Entries}
    {read : (value : Value) → Entries.field? name entries = some value → Checked α}
    {read' : (value : Value) → Entries.field? name entries = some value → Checked β}
    (same : ∀ value found given,
      read value found = .ok given ↔ read' value found = .ok (change given))
    (held : Option α) :
    Checked.fieldFrom name entries read = .ok held ↔
      Checked.fieldFrom name entries read' = .ok (held.map change) := by
  unfold Checked.fieldFrom
  split
  next value found =>
    cases value.isNull with
    | true => exact absent_iff held
    | false =>
        refine within_eq_ok_iff.trans (Iff.trans ?_ within_eq_ok_iff.symm)
        rw [checkedMap_eq_ok_iff, checkedMap_eq_ok_iff]
        cases held with
        | none => simp
        | some given => simpa using same value found given
  next => exact absent_iff held

/-- All values are read as changed values, if each is. -/
theorem all_map {γ : Type} (change : α → β) {read : γ → Checked α} {read' : γ → Checked β}
    (list : List γ)
    (same : ∀ value ∈ list, ∀ given, read value = .ok given ↔ read' value = .ok (change given)) :
    ∀ results, Checked.all (list.map read) = .ok results ↔
      Checked.all (list.map read') = .ok (results.map change) := by
  induction list with
  | nil =>
      intro results
      cases results with
      | nil => exact ⟨fun _ => rfl, fun _ => rfl⟩
      | cons => exact ⟨nofun, nofun⟩
  | cons value rest ih =>
      intro results
      have sameHere := same value List.mem_cons_self
      have sameThere := ih fun other member => same other (List.mem_cons_of_mem _ member)
      rw [List.map_cons, List.map_cons, all_cons_eq_ok_iff, all_cons_eq_ok_iff]
      cases results with
      | nil => simp
      | cons head tail => simp [sameHere, sameThere]

/-- The properties that stand in a value. -/
def propertiesWith (finish : SchemaFields α → Checked α) : Value → Checked (List (Text × α))
  | .map inner => Checked.all (inner.map fun entry =>
      ((schemaWith finish entry.2).within entry.1.display).map fun schema =>
        (entry.1.display, schema))
  | _ => Checked.refuse .notMapping

/-- The fields of a record, with what each record inside is read to. -/
def fieldsFrom (finish : SchemaFields α → Checked α) (entries : Entries) : Checked (SchemaFields α) :=
  fieldsWith entries
    (Checked.fieldFrom "properties" entries fun value _ => propertiesWith finish value)
    (Checked.fieldFrom "additional_properties" entries fun value _ => schemaWith finish value)
    (Checked.fieldFrom "items" entries fun value _ => schemaWith finish value)

theorem schemaWith_map (finish : SchemaFields α → Checked α) (entries : Entries) :
    schemaWith finish (.map entries) = match fieldsFrom finish entries with
      | .ok fields => finish fields
      | .error faults => .error faults := by
  rw [schemaWith, fieldsFrom]
  congr 3
  funext value found
  cases value with
  | map inner =>
      exact congrArg Checked.all (List.attach_map_val (l := inner) (f := fun entry =>
        ((schemaWith finish entry.2).within entry.1.display).map fun schema =>
          (entry.1.display, schema)))
  | _ => rfl

theorem schemaWith_map_eq_ok_iff {finish : SchemaFields α → Checked α} {entries : Entries}
    {made : α} :
    schemaWith finish (.map entries) = .ok made ↔
      ∃ fields, fieldsFrom finish entries = .ok fields ∧ finish fields = .ok made := by
  rw [schemaWith_map]
  constructor
  · intro accepted
    split at accepted
    next fields read => exact ⟨fields, read, accepted⟩
    next => cases accepted
  · rintro ⟨fields, read, finished⟩
    rw [read]
    exact finished

/-- Only mappings are read. -/
theorem exists_entries_of_schemaWith {finish : SchemaFields α → Checked α} {value : Value} {made : α}
    (accepted : schemaWith finish value = .ok made) : ∃ entries, value = .map entries := by
  cases value with
  | map entries => exact ⟨entries, rfl⟩
  | _ =>
      rw [schemaWith] at accepted
      · cases accepted
      · intro entries same
        cases same

/-- Properties are read as changed ones, if each of their values is. -/
theorem propertiesWith_map {finish : SchemaFields α → Checked α}
    {finish' : SchemaFields β → Checked β} {value : Value}
    (same : ∀ held : Value, held.height < value.height → ∀ given,
      schemaWith finish held = .ok given ↔ schemaWith finish' held = .ok (change given))
    (listed : List (Text × α)) :
    propertiesWith finish value = .ok listed ↔ propertiesWith finish' value =
      .ok (listed.map fun property => (property.1, change property.2)) := by
  cases value with
  | map inner =>
      refine all_map (fun property : Text × α => (property.1, change property.2)) inner
        (fun entry member property => ?_) listed
      obtain ⟨key, held⟩ := entry
      obtain ⟨name, given⟩ := property
      have lower := Value.height_le_of_mem_entries member
      have here := same held (by rw [Value.height]; omega) given
      simp only [checkedMap_eq_ok_iff, within_eq_ok_iff, Prod.mk.injEq]
      constructor
      · rintro ⟨given, read, rfl, rfl⟩
        exact ⟨change given, here.mp read, rfl, rfl⟩
      · rintro ⟨changed, read, rfl, rfl⟩
        exact ⟨given, here.mpr read, rfl, rfl⟩
  | _ => exact refuse_iff

/-- Fields are read with changed records inside, if each value in the entries is. -/
theorem fieldsFrom_map {finish : SchemaFields α → Checked α} {finish' : SchemaFields β → Checked β}
    {entries : Entries}
    (same : ∀ held : Value, held.height < (Value.map entries).height → ∀ given,
      schemaWith finish held = .ok given ↔ schemaWith finish' held = .ok (change given))
    (fields : SchemaFields α) :
    fieldsFrom finish entries = .ok fields ↔
      fieldsFrom finish' entries = .ok (fields.map change) := by
  have lower {name : Text} {value : Value} (found : Entries.field? name entries = some value) :
      value.height < (Value.map entries).height := by
    have := Value.height_field_le found
    rw [Value.height]
    omega
  refine fieldsWith_map (fieldFrom_map fun value found => ?_)
    (fieldFrom_map fun value found => same value (lower found))
    (fieldFrom_map fun value found => same value (lower found)) fields
  exact propertiesWith_map fun held inside => same held (inside.trans (lower found))

end Reading

/-- A value is read as a schema if and only if it is read as the record of the schema. -/
theorem schema_eq_ok_iff (value : Value) (made : Schema) :
    schema value = .ok made ↔ SchemaRecord.read value = .ok (.ofSchema made) := by
  by_cases mapping : ∃ entries, value = .map entries
  · obtain ⟨entries, rfl⟩ := mapping
    have same (fields : SchemaFields Schema) :
        fieldsFrom SchemaFields.toSchema entries = .ok fields ↔
          fieldsFrom SchemaRecord.ofFields entries = .ok (fields.map .ofSchema) :=
      fieldsFrom_map (fun held _ => schema_eq_ok_iff held) fields
    rw [schema, SchemaRecord.read, schemaWith_map_eq_ok_iff, schemaWith_map_eq_ok_iff,
      SchemaRecord.ofSchema_eq]
    constructor
    · rintro ⟨fields, read, finished⟩
      obtain rfl := SchemaFields.toSchema_eq_ok_iff.mp finished
      exact ⟨_, (same _).mp read, rfl⟩
    · rintro ⟨fields, read, finished⟩
      cases finished
      exact ⟨_, (same _).mpr read, SchemaFields.toSchema_eq_ok_iff.mpr rfl⟩
  · exact ⟨fun accepted => absurd (exists_entries_of_schemaWith accepted) mapping,
      fun accepted => absurd (exists_entries_of_schemaWith accepted) mapping⟩
termination_by value.height

/-! ## Uses of the records of schemas -/

namespace SchemaRecord

open Markdown (schemaLabel additionalLabel)

theorem notes_ofSchema (schema : Schema) : (ofSchema schema).fields.notes = schema.notes := by
  cases schema <;> rfl

theorem typeOfName_name (notes : Notes) (type : Primitive) :
    typeOfName notes type.name = .ofPrimitive notes type := by
  cases type <;> rfl

mutual

theorem type?_ofSchema : (schema : Schema) → (ofSchema schema).type? = some (.ofSchema schema)
  | .primitive notes type => by
      rw [TypeExpr.ofSchema, ← typeOfName_name]
      rfl
  | .enumeration notes values => rfl
  | .array notes items => by
      rw [TypeExpr.ofSchema]
      exact congrArg (Option.map _) (type?_ofSchema items)
  | .object notes [] required additional => by
      rw [TypeExpr.ofSchema]
      exact congrArg (Option.map _) (additionalType?_ofAdditional additional)
  | .object notes (property :: rest) required additional => by
      rw [TypeExpr.ofSchema]
      exact congrArg (Option.map _) (members?_ofProperties required (property :: rest))
  | .reference notes name => rfl
  termination_by structural schema => schema

theorem members?_ofProperties (required : List Text) : (properties : List (Text × Schema)) →
    members? required (ofProperties properties) = some (TypeExpr.membersOf required properties)
  | [] => rfl
  | (name, schema) :: rest => by
      rw [ofProperties, members?, type?_ofSchema schema, members?_ofProperties required rest,
        notes_ofSchema, TypeExpr.membersOf]
  termination_by structural properties => properties

theorem additionalType?_ofAdditional : (additional : Option Schema) →
    additionalType? (ofAdditional additional) = some (.ofAdditional additional)
  | none => rfl
  | some schema => type?_ofSchema schema
  termination_by structural additional => additional

end

theorem declaration?_ofSchema (name : Text) (schema : Schema) :
    (ofSchema schema).declaration? name = some (.ofSchema name schema) := by
  let declared (meaning? : Option Meaning) : Option Declaration :=
    meaning?.map (Declaration.mk name (remark schema.notes.description))
  have typed := congrArg (fun type? => declared (type?.map .type)) (type?_ofSchema schema)
  cases schema with
  | object notes properties required additional =>
      obtain ⟨format, description, nullable⟩ := notes
      cases properties with
      | nil => cases nullable <;> exact typed
      | cons property rest =>
          cases nullable with
          | false =>
              exact congrArg (fun members? => declared (members?.map .members))
                (members?_ofProperties required (property :: rest))
          | true => exact typed
  | _ => exact typed

mutual

theorem label?_ofSchema : (schema : Schema) → (ofSchema schema).label? = some (schemaLabel schema)
  | .primitive notes type => rfl
  | .enumeration notes values => rfl
  | .array notes items => by
      rw [schemaLabel]
      exact congrArg (Option.map _) (label?_ofSchema items)
  | .object notes [] required additional => by
      rw [schemaLabel]
      exact congrArg (Option.map _) (additionalLabel?_ofAdditional additional)
  | .object notes (property :: rest) required additional => rfl
  | .reference notes name => rfl
  termination_by structural schema => schema

theorem additionalLabel?_ofAdditional : (additional : Option Schema) →
    additionalLabel? (ofAdditional additional) = some (additionalLabel additional)
  | none => rfl
  | some schema => congrArg (Option.map _) (label?_ofSchema schema)
  termination_by structural additional => additional

end

theorem table?_ofSchema (schema : Schema) :
    (ofSchema schema).table? = some (Markdown.fieldsOf schema) := by
  cases schema with
  | object notes properties required additional =>
      rw [Markdown.fieldsOf]
      change (ofProperties properties).mapM _ = _
      rw [ofProperties_eq]
      induction properties with
      | nil => rfl
      | cons property rest ih =>
          obtain ⟨name, schema⟩ := property
          rw [List.map_cons, List.mapM_cons, ih, List.map_cons]
          dsimp only
          rw [label?_ofSchema, notes_ofSchema]
          rfl
  | _ => rfl

/-- Nobody misses content in the record: its type at every depth, its declaration, its label and its
table are those of the schema. -/
structure IsUsedAs (record : SchemaRecord) (schema : Schema) : Prop where
  type : ∀ depth, record.type?.map (TypeExpr.render depth) =
    some ((TypeExpr.ofSchema schema).render depth)
  declaration : ∀ name, record.declaration? name = some (.ofSchema name schema)
  label : record.label? = some (schemaLabel schema)
  table : record.table? = some (Markdown.fieldsOf schema)

theorem isUsedAs_ofSchema (schema : Schema) : (ofSchema schema).IsUsedAs schema where
  type depth := by rw [type?_ofSchema]; rfl
  declaration name := declaration?_ofSchema name schema
  label := label?_ofSchema schema
  table := table?_ofSchema schema

end SchemaRecord

/-- A value is accepted as a schema if and only if every record in it is sound; then nobody misses
content in any of them. A value with a record that is not sound is refused. -/
theorem schema_isAccepted_iff (value : Value) :
    ((∃ made, schema value = .ok made) ↔ ∃ record, SchemaRecord.read value = .ok record ∧
      ∀ node : SchemaRecord, node.IsInside record → node.fields.IsSound) ∧
    (∀ made, schema value = .ok made → ∃ record, SchemaRecord.read value = .ok record ∧
      record.IsUsedAs made ∧
      ∀ node : SchemaRecord, node.IsInside record →
        node.fields.IsSound ∧ ∃ inner, node.IsUsedAs inner) ∧
    (∀ record node : SchemaRecord, SchemaRecord.read value = .ok record → node.IsInside record →
      ¬ node.fields.IsSound → ∃ faults, schema value = .error faults) := by
  have accepted_iff : (∃ made, schema value = .ok made) ↔ ∃ record,
      SchemaRecord.read value = .ok record ∧
        ∀ node : SchemaRecord, node.IsInside record → node.fields.IsSound := by
    constructor
    · rintro ⟨made, accepted⟩
      exact ⟨_, (schema_eq_ok_iff value made).mp accepted,
        (SchemaRecord.exists_ofSchema_iff _).mp ⟨made, rfl⟩⟩
    · rintro ⟨record, read, sound⟩
      obtain ⟨made, rfl⟩ := (SchemaRecord.exists_ofSchema_iff record).mpr sound
      exact ⟨made, (schema_eq_ok_iff value made).mpr read⟩
  refine ⟨accepted_iff, ?_, ?_⟩
  · intro made accepted
    refine ⟨_, (schema_eq_ok_iff value made).mp accepted, SchemaRecord.isUsedAs_ofSchema made, ?_⟩
    intro node inside
    obtain ⟨inner, rfl⟩ := inside.exists_ofSchema made rfl
    exact ⟨SchemaRecord.isSound_fields_ofSchema inner, inner, SchemaRecord.isUsedAs_ofSchema inner⟩
  · intro record node read inside unsound
    cases answer : schema value with
    | error faults => exact ⟨faults, rfl⟩
    | ok made =>
        obtain ⟨other, readOther, sound⟩ := accepted_iff.mp ⟨made, answer⟩
        cases readOther.symm.trans read
        exact absurd (sound node inside) unsound

end ApiForge.Record

import ApiForge.Document.Access
import ApiForge.Json.Writer
import ApiForge.Model.Schema
import ApiForge.Record.Checked
import ApiForge.Reference.Expand
import ApiForge.Text.Distinct

/-!
# Forms of schemas

What one node of a description says about a schema, with the nodes inside it as
they stand. Of several things that a node may say, a reference comes first, then
a composition, of which the first branch counts, then an enumeration, an array,
an object and a primitive.
-/

namespace ApiForge.Import

/-- Notes as they stand in a document. -/
structure RawNotes where
  format : Value
  description : Value
  nullable : Bool
  deriving Repr

namespace RawNotes

/-- The notes, whose texts are texts or absent. -/
def check (notes : RawNotes) : Checked Notes :=
  let format := (Checked.optionalText notes.format).within "format"
  let description := (Checked.optionalText notes.description).within "description"
  let make (format description : Option Text) : Notes := ⟨format, description, notes.nullable⟩
  (format.map make).and description

end RawNotes

/-- What an object allows beside its properties. -/
inductive Additional where
  | nothing
  | anything
  | schema (node : Value)
  deriving Repr

/-- The node that says what is allowed. -/
def Additional.node? : Additional → Option Value
  | .schema node => some node
  | _ => none

inductive SchemaForm where
  | shapeless
  | reference (reference : Text)
  | branch (node : Value)
  | enumeration (notes : RawNotes) (values : List Text)
  | array (notes : RawNotes) (items : Value)
  | object (notes : RawNotes) (properties : Entries) (required : List Text)
      (additional : Additional)
  | primitive (notes : RawNotes) (type : Primitive)
  deriving Repr

/-- The type that a node names, and whether null is named beside it. A list names its first type
other than null. -/
def splitType (type : Value) : Option Text × Bool :=
  match type with
  | .list types =>
      match types.filter (!Value.isText "null" ·) with
      | [] => (if types.isEmpty then none else some "null", false)
      | first :: _ => (some first.display, types.any (Value.isText "null"))
  | type => if type.isNull then (none, false) else (some type.display, false)

/-- The text of an enumerated value. -/
def enumText (value : Value) : Except Abort Text :=
  match value with
  | .scalar (.str text) => .ok text
  | value => foreseen (Json.line? true value)

/-- The first branch of a composition. -/
def firstBranch? (entries : Entries) : Option Value :=
  ["allOf", "oneOf", "anyOf"].findSome? fun keyword : String =>
    match Entries.field? keyword.toList entries with
    | some (.list (branch :: _)) => some branch
    | _ => none

def additionalOf (entries : Entries) : Additional :=
  match Entries.field? "additionalProperties" entries with
  | some (.scalar (.bool true)) => .anything
  | some (.map inner) => .schema (.map inner)
  | _ => .nothing

def requiredOf (entries : Entries) : List Text :=
  match Entries.field? "required" entries with
  | some (.list names) => Text.distinct (names.filterMap Value.text?)
  | _ => []

/-- A primitive of this type: a file is a binary text, an unknown type is unknown. -/
def primitiveForm (notes : RawNotes) (type : Option Text) : SchemaForm :=
  match type with
  | none => .primitive notes .unknown
  | some type =>
      if type = "file" then .primitive { notes with format := .str "binary" } .string
      else .primitive notes ((Primitive.ofName? type).getD .unknown)

/-- The form of a node that is neither a reference nor a composition. -/
def plainForm (entries : Entries) : Except Abort SchemaForm := do
  let (type, withNull) := splitType (Value.fieldOrNull "type" entries)
  let isNullable := withNull || (Value.fieldOrNull "nullable" entries).holds ||
    (Value.fieldOrNull "x-nullable" entries).holds
  let notes : RawNotes :=
    ⟨Value.fieldOrNull "format" entries, Value.fieldOrNull "description" entries, isNullable⟩
  match Entries.field? "enum" entries with
  | some (.list values) =>
      let texts ← (values.filter (!·.isNull)).mapM enumText
      let isNullable := isNullable || values.any Value.isNull
      pure (.enumeration { notes with nullable := isNullable } texts)
  | _ =>
      if type = some "array" ∨ Entries.contains (.str "items") entries then
        pure (.array notes (Value.fieldOrNull "items" entries))
      else if type = some "object" ∨ Entries.contains (.str "properties") entries ∨
          Entries.contains (.str "additionalProperties") entries then do
        let properties ← Value.fieldEntries "properties" entries
        pure (.object notes properties (requiredOf entries) (additionalOf entries))
      else pure (primitiveForm notes type)

/-- The form of a node. -/
def formOf (node : Value) : Except Abort SchemaForm :=
  match node with
  | .map entries =>
      match Reference.ofEntries? entries with
      | some reference => .ok (.reference reference)
      | none =>
          match firstBranch? entries with
          | some branch => .ok (.branch branch)
          | none => plainForm entries
  | _ => .ok .shapeless

end ApiForge.Import

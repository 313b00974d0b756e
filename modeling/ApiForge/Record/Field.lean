import ApiForge.Document.Height
import ApiForge.Record.Checked
import ApiForge.Text.Distinct

/-!
# Fields of records

A field is looked up by its name, or by the first of two names that is there. A
missing field is a fault, or stands for a value, or is absent.
-/

namespace ApiForge.Checked

/-- A field that must be there. -/
def field {α : Type} (name : Text) (entries : Entries) (read : Value → Checked α) : Checked α :=
  match Entries.field? name entries with
  | some value => (read value).within name
  | none => (refuse .missing).within name

/-- A field that stands for `absent` if it is not there. -/
def fieldOr {α : Type} (name : Text) (entries : Entries) (absent : α)
    (read : Value → Checked α) : Checked α :=
  match Entries.field? name entries with
  | some value => (read value).within name
  | none => .ok absent

/-- A field that is absent if it is not there or null. -/
def fieldIfAny {α : Type} (name : Text) (entries : Entries) (read : Value → Checked α) :
    Checked (Option α) :=
  fieldOr name entries none (optional read)

/-- A field that is absent if it is not there or null; the reader is told whose value it reads. -/
def fieldFrom {α : Type} (name : Text) (entries : Entries)
    (read : (value : Value) → Entries.field? name entries = some value → Checked α) :
    Checked (Option α) :=
  match found : Entries.field? name entries with
  | some value => if value.isNull then .ok none else ((read value found).map some).within name
  | none => .ok none

/-- A field with two names; a missing one is named by the first. -/
def namedField {α : Type} (name other : Text) (entries : Entries) (read : Value → Checked α) :
    Checked α :=
  if (Entries.field? name entries).isNone && (Entries.field? other entries).isSome then
    field other entries read
  else field name entries read

/-- A field with two names that is absent if it is not there or null. -/
def namedFieldIfAny {α : Type} (name other : Text) (entries : Entries)
    (read : Value → Checked α) : Checked (Option α) :=
  match Entries.field? name entries with
  | some value => (optional read value).within name
  | none => fieldIfAny other entries read

/-- The entries of a record. -/
def entriesOf (record : Text) : Value → Checked Entries
  | .map entries => .ok entries
  | _ => refuse (.notRecord record)

/-- The elements, each read at its position. -/
def elements {α : Type} (read : Value → Checked α) (items : List Value) : Checked (List α) :=
  all (items.mapIdx fun position item => (read item).within (Text.ofNat position))

/-- A list, refused for a cause that depends on what it is for. -/
def listOr {α : Type} (cause : FieldCause) (read : Value → Checked α) : Value → Checked (List α)
  | .list items => elements read items
  | _ => refuse cause

/-- The distinct texts of a list. -/
def members (value : Value) : Checked (List Text) :=
  (listOr .notMembers text value).map Text.distinct

end ApiForge.Checked

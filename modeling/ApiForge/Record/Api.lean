import ApiForge.Model.Api
import ApiForge.Record.Operation

/-!
# API records

The record of an API, with the records of its operations, schemas and tags.
-/

namespace ApiForge.Record

def tag (value : Value) : Checked Tag :=
  match value with
  | .map entries =>
      let name := Checked.field "name" entries Checked.text
      let description := Checked.fieldIfAny "description" entries Checked.text
      (name.map Tag.mk).and description
  | _ => Checked.refuse (.notRecord "TagInfo")

/-- The schemas under their names. -/
def schemas (value : Value) : Checked (List (Text × Schema)) :=
  match value with
  | .map entries =>
      Checked.all (entries.map fun (key, value) =>
        ((schema value).within key.display).map fun schema => (key.display, schema))
  | _ => Checked.refuse .notMapping

def api (value : Value) : Checked Api :=
  match value with
  | .map entries =>
      let title := Checked.field "title" entries Checked.text
      let version := Checked.field "version" entries Checked.text
      let description := Checked.fieldIfAny "description" entries Checked.text
      let baseUrl := Checked.fieldIfAny "base_url" entries Checked.text
      let operations :=
        Checked.fieldOr "operations" entries [] (Checked.listOr .notSequence operation)
      let schemas := Checked.fieldOr "schemas" entries [] schemas
      let tags := Checked.fieldOr "tags" entries [] (Checked.listOr .notSequence tag)
      (title.map Api.mk).and version |>.and description |>.and baseUrl |>.and operations
        |>.and schemas |>.and tags
  | _ => Checked.refuse (.notRecord "ParsedApi")

end ApiForge.Record

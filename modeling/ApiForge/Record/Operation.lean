import ApiForge.Model.Operation
import ApiForge.Record.Schema

/-!
# Operation records

The records of parameters, bodies, responses and operations. A path parameter
is required before its record says anything about it.
-/

namespace ApiForge.Record

/-- Whether a parameter is required; in a path it is. -/
def requiredOf (entries : Entries) : Checked Bool :=
  if (Value.fieldOrNull "location" entries).isText "path" then .ok true
  else Checked.fieldOr "required" entries false Checked.truth

def parameter (value : Value) : Checked Parameter :=
  match value with
  | .map entries =>
      let name := Checked.field "name" entries Checked.text
      let location := Checked.field "location" entries (named Location.all Location.name)
      let required := requiredOf entries
      let type := Checked.fieldOr "schema_type" entries "string".toList Checked.text
      let format := Checked.fieldIfAny "schema_format" entries Checked.text
      let itemsType := Checked.fieldIfAny "items_type" entries Checked.text
      let description := Checked.fieldIfAny "description" entries Checked.text
      let make (name : Text) (location : Location) (required : Bool) (type : Text)
          (format itemsType description : Option Text) : Parameter :=
        .make location required name type itemsType format description
      (name.map make).and location |>.and required |>.and type |>.and format |>.and itemsType
        |>.and description
  | _ => Checked.refuse (.notRecord "ParsedParameter")

def requestBody (value : Value) : Checked RequestBody :=
  match value with
  | .map entries =>
      let required := Checked.fieldOr "required" entries false Checked.truth
      let description := Checked.fieldIfAny "description" entries Checked.text
      let contentType :=
        Checked.fieldOr "content_type" entries "application/json".toList Checked.text
      let schema := Checked.namedField "schema" "schema_" entries schema
      (required.map RequestBody.mk).and description |>.and contentType |>.and schema
  | _ => Checked.refuse (.notRecord "ParsedRequestBody")

def response (value : Value) : Checked Response :=
  match value with
  | .map entries =>
      let status := Checked.field "status_code" entries Checked.text
      let description := Checked.fieldOr "description" entries [] Checked.text
      let contentType := Checked.fieldIfAny "content_type" entries Checked.text
      let schema := Checked.namedFieldIfAny "schema" "schema_" entries schema
      (status.map Response.mk).and description |>.and contentType |>.and schema
  | _ => Checked.refuse (.notRecord "ParsedResponse")

def operation (value : Value) : Checked Operation :=
  match value with
  | .map entries =>
      let identifier := Checked.field "operation_id" entries Checked.text
      let method := Checked.field "method" entries (named Method.all Method.name)
      let path := Checked.field "path" entries Checked.text
      let summary := Checked.fieldIfAny "summary" entries Checked.text
      let description := Checked.fieldIfAny "description" entries Checked.text
      let tags := Checked.fieldOr "tags" entries [] (Checked.listOr .notSequence Checked.text)
      let parameters :=
        Checked.fieldOr "parameters" entries [] (Checked.listOr .notSequence parameter)
      let body := Checked.fieldIfAny "request_body" entries requestBody
      let responses :=
        Checked.fieldOr "responses" entries [] (Checked.listOr .notSequence response)
      let deprecated := Checked.fieldOr "deprecated" entries false Checked.truth
      (identifier.map Operation.mk).and method |>.and path |>.and summary |>.and description
        |>.and tags |>.and parameters |>.and body |>.and responses |>.and deprecated
  | _ => Checked.refuse (.notRecord "ParsedOperation")

end ApiForge.Record

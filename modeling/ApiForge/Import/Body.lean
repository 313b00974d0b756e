import ApiForge.Import.Parameter
import ApiForge.Import.Schema

/-!
# Importing bodies and responses

A body has one content type: the first that speaks of JSON, or else the first.
The older dialect writes a body as a parameter, or as several form parameters,
which make up an object.
-/

namespace ApiForge.Import

/-- The first value that mentions JSON. -/
def firstJson? : List Value → Except Abort (Option Value)
  | [] => .ok none
  | value :: rest => do
      if ← foreseen (value.mentions? "json") then pure (some value) else firstJson? rest

/-- The content type of a body with these contents. -/
def pickContentType (content : Value) : Except Abort (Option Value) := do
  let candidates ← foreseen content.elements?
  match ← firstJson? candidates with
  | some candidate => pure (some candidate)
  | none => pure candidates.head?

/-- What is said about a content type. -/
def mediaOf (content contentType : Value) : Except Abort Value := do
  let entries ← foreseen content.entries?
  match contentType with
  | .scalar key => pure ((Entries.find? key entries).getD .null)
  | _ => throw .unforeseen

/-- The body that checked fields make up. -/
def makeBody (required : Bool) (schema : Schema) (description : Option Text)
    (contentType : Text) : RequestBody :=
  { required, description, contentType, schema }

def checkedBody (required : Bool) (schema : Schema) (description contentType : Value) :
    Except Abort RequestBody :=
  let description := (Checked.optionalText description).within "description"
  let contentType := (Checked.text contentType).within "content_type"
  ((description.map (makeBody required schema)).and contentType).orAbort

/-- The request body of the newer dialect. -/
def bodyOf (source : Source) (node : Value) : Except Abort (Option RequestBody) := do
  match ← source.followEntries? node with
  | none => pure none
  | some entries =>
      let content := Value.fieldOr "content" entries (.map [])
      match ← pickContentType content with
      | none => pure none
      | some contentType =>
          let media ← mediaOf content contentType
          let media ← foreseen (if media.holds then media else .map []).entries?
          let schema ← schemaOf source (Value.fieldOrNull "schema" media)
          some <$> checkedBody (Value.fieldOrNull "required" entries).holds schema
            (Value.fieldOrNull "description" entries) contentType

/-- The value of a field of an operation or, failing that, of the document. -/
def inherited (source : Source) (name : Text) (operation : Entries) : Value :=
  Value.fieldOr name operation (Value.fieldOr name source.entries (.list []))

/-- The request body that a body parameter describes. -/
def bodyOfParameter (source : Source) (operation parameter : Entries) :
    Except Abort RequestBody := do
  let consumed ← foreseen (inherited source "consumes" operation).elements?
  let contentType := (← firstJson? consumed).getD (.str "application/json")
  let schema ← schemaOf source (Value.fieldOrNull "schema" parameter)
  checkedBody (Value.fieldOrNull "required" parameter).holds schema
    (Value.fieldOrNull "description" parameter) contentType

def isIn (location : Text) (entries : Entries) : Bool :=
  (Value.fieldOrNull "in" entries).isText location

def isRequired (entries : Entries) : Bool :=
  (Value.fieldOrNull "required" entries).holds

/-- The request body that form parameters make up; a file needs a form of several parts. -/
def bodyOfForm (source : Source) (form : List Entries) : Except Abort (Option RequestBody) := do
  if form.isEmpty then pure none
  else
    let properties ← form.mapM fun entries => do
      let schema ← schemaOf source (.map entries)
      pure (displayedField "name" entries, schema)
    let required := (form.filter isRequired).map (displayedField "name")
    let hasFile := form.any fun entries => (Value.fieldOrNull "type" entries).isText "file"
    pure (some {
      required := !required.isEmpty
      description := none
      contentType :=
        if hasFile then "multipart/form-data" else "application/x-www-form-urlencoded"
      schema := .object .none (Keyed.ofList properties) (Text.distinct required) none })

/-- The request body of the older dialect. -/
def bodyOfParameters (source : Source) (operation : Entries) (merged : List Entries) :
    Except Abort (Option RequestBody) :=
  match merged.find? (isIn "body") with
  | some parameter => some <$> bodyOfParameter source operation parameter
  | none => bodyOfForm source (merged.filter (isIn "formData"))

/-- The content type and schema of a response in the older dialect. -/
def producedBy (source : Source) (operation response : Entries) :
    Except Abort (Value × Option Schema) := do
  match Entries.field? "schema" response with
  | none => pure (.null, none)
  | some node =>
      let produces := inherited source "produces" operation
      let candidates ← foreseen produces.elements?
      let fallback ←
        if produces.holds then foreseen produces.first? else pure (.str "application/json")
      let contentType := (← firstJson? candidates).getD fallback
      let schema ← schemaOf source node
      pure (contentType, some schema)

/-- The content type and schema of a response in the newer dialect. -/
def contentOf (source : Source) (response : Entries) : Except Abort (Value × Option Schema) := do
  let content := Value.fieldOr "content" response (.map [])
  match ← pickContentType content with
  | none => pure (.null, none)
  | some contentType =>
      let media ← if contentType.holds then mediaOf content contentType else pure .null
      match (media.entries?).bind (Entries.field? "schema") with
      | some node =>
          let schema ← schemaOf source node
          pure (contentType, some schema)
      | none => pure (contentType, none)

/-- The response that checked fields make up. -/
def makeResponse (status : Text) (schema : Option Schema) (description : Text)
    (contentType : Option Text) : Response :=
  { status, description, contentType, schema }

/-- A response with a status; extensions and what is no mapping are passed over. -/
def responseOf (source : Source) (operation : Entries) (status : Text) (node : Value) :
    Except Abort (Option Response) := do
  if status.startsWith "x-" then pure none
  else
    match ← source.followEntries? node with
    | none => pure none
    | some entries =>
        let (contentType, schema) ← match source.dialect with
          | .swagger => producedBy source operation entries
          | .openApi => contentOf source entries
        let description :=
          (Checked.text (Value.fieldOr "description" entries (.str []))).within "description"
        let contentType := (Checked.optionalText contentType).within "content_type"
        some <$> ((description.map (makeResponse status schema)).and contentType).orAbort

/-- The responses of an operation. -/
def responsesOf (source : Source) (operation : Entries) : Except Abort (List Response) := do
  let responses ← Value.fieldEntries "responses" operation
  let found ← responses.mapM fun (key, node) => responseOf source operation key.display node
  pure (found.filterMap id)

end ApiForge.Import

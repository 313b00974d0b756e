import ApiForge.Import.Operation
import ApiForge.Import.Server
import ApiForge.Model.Api
import ApiForge.Naming.Unique

/-!
# Importing APIs

The API that a description stands for. The parts are imported in a fixed order,
so that of several failures the first in that order is reported. Schema names
and groups get distinct identifiers.
-/

namespace ApiForge.Import

/-- A tag, if the node names one. -/
def tagOf (node : Value) : Except Abort (Option Tag) :=
  match node with
  | .map entries =>
      match Entries.field? "name" entries with
      | some name =>
          let description :=
            (Checked.optionalText (Value.fieldOrNull "description" entries)).within "description"
          (description.map fun description => some ⟨name.display, description⟩).orAbort
      | none => .ok none
  | _ => .ok none

def tagsOf (source : Source) : Except Abort (List Tag) := do
  let nodes ← Value.fieldElements "tags" source.entries
  let found ← nodes.mapM tagOf
  pure (found.filterMap id)

/-- What an API holds beside its described fields. -/
structure ApiParts where
  title : Text
  version : Text
  operations : List Operation
  schemas : List (Text × Schema)
  tags : List Tag

def ApiParts.make (parts : ApiParts) (description baseUrl : Option Text) : Api :=
  { title := parts.title, version := parts.version, description, baseUrl
    operations := parts.operations, schemas := parts.schemas, tags := parts.tags }

/-- The two kinds of names that must differ as identifiers. -/
def checkNames (api : Api) : Except Failure Unit := do
  let _ ← Naming.assign "Schema" Naming.schemaType (api.schemas.map (·.1))
  let _ ← Naming.assign "Tag" Naming.group api.groupNames

/-- The API of a source found at a URL. -/
def apiOfSource (source : Source) (foundAt : Option Text) : Except Abort Api := do
  let info := Value.fieldOr "info" source.entries (.map [])
  let schemas ← namedSchemas source
  let info ← foreseen info.entries?
  let title := (Value.fieldOr "title" info (.str "Untitled API")).display
  let version := (Value.fieldOr "version" info (.str "0.0.0")).display
  let base ← baseUrlOf source foundAt
  let operations ← operationsOf source
  let tags ← tagsOf source
  let parts : ApiParts := { title, version, operations, schemas, tags }
  let description :=
    (Checked.optionalText (Value.fieldOrNull "description" info)).within "description"
  let baseUrl := (Checked.optionalText base).within "base_url"
  let api ← ((description.map parts.make).and baseUrl).orAbort
  match checkNames api with
  | .ok _ => pure api
  | .error failure => throw (.failed failure)

/-- The API of a document found at a URL. -/
def apiOf (document : Value) (foundAt : Option Text) : Except Abort Api := do
  let source ← Source.ofDocument document
  apiOfSource source foundAt

end ApiForge.Import

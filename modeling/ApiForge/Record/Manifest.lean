import ApiForge.Calendar
import ApiForge.Json.Reader
import ApiForge.Json.Writer
import ApiForge.Model.Api
import ApiForge.Record.Field
import ApiForge.Record.Scalar

/-!
# Manifests

The record that is stored beside the artifacts of a client: what they were made
from, when, and which files they are.
-/

namespace ApiForge

structure Manifest where
  name : Text
  title : Text
  version : Text
  description : Option Text
  sourceUrl : Text
  baseUrl : Option Text
  generatedAt : Text
  files : List Text
  stats : Stats
  deriving DecidableEq, Repr

namespace Manifest

def readStats (value : Value) : Checked Stats :=
  match value with
  | .map entries =>
      let operations := Checked.field "operations" entries Checked.integer
      let schemas := Checked.field "schemas" entries Checked.integer
      let tags := Checked.field "tags" entries Checked.integer
      (operations.map Stats.mk).and schemas |>.and tags
  | _ => Checked.refuse (.notRecord "ManifestStats")

/-- Reads the record of a manifest. -/
def read (value : Value) : Checked Manifest :=
  match value with
  | .map entries =>
      let name := Checked.field "name" entries Checked.text
      let title := Checked.field "title" entries Checked.text
      let version := Checked.field "version" entries Checked.text
      let description := Checked.fieldIfAny "description" entries Checked.text
      let sourceUrl := Checked.namedField "sourceUrl" "source_url" entries Checked.text
      let baseUrl := Checked.namedFieldIfAny "baseUrl" "base_url" entries Checked.text
      let generatedAt := Checked.namedField "generatedAt" "generated_at" entries Checked.text
      let files := Checked.fieldOr "files" entries [] (Checked.listOr .notList Checked.text)
      let stats := Checked.field "stats" entries readStats
      (name.map Manifest.mk).and title |>.and version |>.and description |>.and sourceUrl
        |>.and baseUrl |>.and generatedAt |>.and files |>.and stats
  | _ => Checked.refuse (.notRecord "Manifest")

/-- A record of these fields. -/
def recordOf (fields : List (Text × Value)) : Value :=
  .map (fields.map fun (name, value) => (.str name, value))

/-- A text, or null for an absent one. -/
def textOrNull : Option Text → Value
  | some text => .str text
  | none => .null

def statsRecord (stats : Stats) : Value :=
  recordOf [("operations", .int stats.operations), ("schemas", .int stats.schemas),
    ("tags", .int stats.tags)]

/-- The record of a manifest. -/
def toRecord (manifest : Manifest) : Value :=
  recordOf [("name", .str manifest.name), ("title", .str manifest.title),
    ("version", .str manifest.version), ("description", textOrNull manifest.description),
    ("sourceUrl", .str manifest.sourceUrl), ("baseUrl", textOrNull manifest.baseUrl),
    ("generatedAt", .str manifest.generatedAt), ("files", .list (manifest.files.map .str)),
    ("stats", statsRecord manifest.stats)]

/-- The text of the record. -/
def spell (manifest : Manifest) : Text :=
  (Json.indented? manifest.toRecord).getD []

/-- The stored text, which ends its last line. -/
def stored (manifest : Manifest) : Text :=
  manifest.spell ++ ['\n']

/-- A document in which half of a surrogate pair stands alone. -/
def holdsLoneSurrogate (value : Value) : Bool :=
  ((Json.line? false value).getD []).any isLoneSurrogate

/-- The manifest that a stored text spells. -/
def ofText? (text : Text) : Option Manifest :=
  match Json.read text with
  | .error _ => none
  | .ok value => if holdsLoneSurrogate value then none else (read value).toOption

/-- A moment as it is noted; universal time is a `Z`. -/
def noted (moment : Moment) : Text :=
  (moment.spell 'T').replace "+00:00" "Z"

/-- The manifest of a client made from an API. -/
def ofApi (api : Api) (name sourceUrl : Text) (files : List Text) (moment : Moment) : Manifest :=
  { name
    title := api.title
    version := api.version
    description := api.description
    sourceUrl
    baseUrl := api.baseUrl
    generatedAt := noted moment
    files
    stats := api.stats }

end Manifest

end ApiForge

import ApiForge.Import.Api
import ApiForge.Proofs.Reference.Following
import Mathlib.Tactic.MkIffOfInductiveProp

/-!
# Places of references

A reference may stand for a path item, a parameter, a body, a response or a
schema. Elsewhere the import takes a mapping as it is, so a reference there is
not followed. The conditions below say of each part of a description that no
reference is where the import reads something else; what it does not read may
hold any references. They can be decided for a given description.
-/

namespace ApiForge

/-! ## Deciding what holds of mappings -/

section

variable {holds : Entries → Prop} [DecidablePred holds]

instance decidableForallMap (value : Value) :
    Decidable (∀ entries, value = .map entries → holds entries) :=
  match value with
  | .map entries =>
      decidable_of_iff (holds entries)
        ⟨fun here _ same => Value.map.inj same ▸ here, fun all => all entries rfl⟩
  | .scalar _ | .list _ | .set _ | .pair _ _ => .isTrue fun _ same => nomatch same

instance decidableForallSomeMap (value : Option Value) :
    Decidable (∀ entries, value = some (.map entries) → holds entries) :=
  decidable_of_iff (∀ inner, value = some inner → ∀ entries, inner = .map entries → holds entries)
    ⟨fun all entries same => all _ same entries rfl,
      fun all _ same entries map => all entries (map ▸ same)⟩

end

namespace Reference

instance (value : Value) : Decidable (IsFree value) :=
  inferInstanceAs (Decidable (all value = []))

instance (value : Value) : Decidable (IsPlain value) :=
  match value with
  | .pair first second =>
      decidable_of_iff (IsFree first ∧ IsFree second)
        ⟨fun free => ⟨rfl, fun _ _ same => by cases same; exact free⟩,
          fun plain => plain.pair first second rfl⟩
  | .map entries =>
      decidable_of_iff (ofValue? (.map entries) = none)
        ⟨fun none => ⟨none, nofun⟩, IsPlain.notReference⟩
  | .scalar _ | .list _ | .set _ => .isTrue ⟨rfl, nofun⟩

end Reference

namespace Import

open Reference (IsFree IsPlain ofValue?)

/-! ## Fields -/

/-- No reference stands under the key. -/
def HasPlain (name : Text) (entries : Entries) : Prop :=
  ∀ value, Entries.field? name entries = some value → ofValue? value = none

instance (name : Text) (entries : Entries) : Decidable (HasPlain name entries) :=
  inferInstanceAs
    (Decidable (∀ value, Entries.field? name entries = some value → ofValue? value = none))

/-- No reference is in what stands under the key. -/
def HasFree (name : Text) (entries : Entries) : Prop :=
  ∀ value, Entries.field? name entries = some value → IsFree value

instance (name : Text) : DecidablePred (HasFree name) := fun entries =>
  inferInstanceAs (Decidable (∀ value, Entries.field? name entries = some value → IsFree value))

/-- The node may be a reference. The mapping that it leads to fulfils a condition; under its own key
of references there is no further one. -/
def AtTarget (source : Source) (condition : Entries → Prop) (node : Value) : Prop :=
  ∀ entries, source.followEntries? node = .ok (some entries) →
    HasPlain "$ref" entries ∧ condition entries

instance (source : Source) (condition : Entries → Prop) [DecidablePred condition] (node : Value) :
    Decidable (AtTarget source condition node) :=
  inferInstanceAs (Decidable (∀ entries, source.followEntries? node = .ok (some entries) →
    HasPlain "$ref" entries ∧ condition entries))

/-- What is asked of a description in either dialect. -/
def InDialect (dialect : Dialect) (older newer : Prop) : Prop :=
  match dialect with
  | .swagger => older
  | .openApi => newer

instance (dialect : Dialect) (older newer : Prop) [Decidable older] [Decidable newer] :
    Decidable (InDialect dialect older newer) :=
  match dialect with
  | .swagger => inferInstanceAs (Decidable older)
  | .openApi => inferInstanceAs (Decidable newer)

/-! ## Parameters -/

/-- The list is no reference, and its elements may be references to parameters. -/
@[mk_iff]
structure ParameterListPlaces (source : Source) (list : Value) : Prop where
  plain : IsPlain list
  each : ∀ nodes, list.elements? = some nodes →
    ∀ node ∈ nodes, AtTarget source (fun _ => True) node

instance (source : Source) (list : Value) : Decidable (ParameterListPlaces source list) :=
  decidable_of_iff' _ (parameterListPlaces_iff source list)

/-- The entries say what type a parameter has; the items of an array are a schema. -/
@[mk_iff]
structure TypePlaces (source : Source) (entries : Entries) : Prop where
  type : HasFree "type" entries
  items : typeIn (some entries) = some "array" →
    AtTarget source (HasFree "type") (Value.fieldOr "items" entries (.map []))

instance (source : Source) : DecidablePred (TypePlaces source) := fun entries =>
  decidable_of_iff' _ (typePlaces_iff source entries)

@[mk_iff]
structure ParameterPlaces (source : Source) (entries : Entries) : Prop where
  required : HasPlain "required" entries
  typed : InDialect source.dialect (TypePlaces source entries)
    (AtTarget source (TypePlaces source) (Value.fieldOr "schema" entries (.map [])))

instance (source : Source) (entries : Entries) : Decidable (ParameterPlaces source entries) :=
  decidable_of_iff' _ (parameterPlaces_iff source entries)

/-! ## Bodies and responses -/

/-- No reference is in the values up to the first that mentions JSON. -/
def AreFreeUpToJson : List Value → Prop
  | [] => True
  | value :: rest => IsFree value ∧ (value.mentions? "json" = some false → AreFreeUpToJson rest)

instance decidableAreFreeUpToJson : (values : List Value) → Decidable (AreFreeUpToJson values)
  | [] => .isTrue trivial
  | value :: rest =>
      have := decidableAreFreeUpToJson rest
      inferInstanceAs (Decidable
        (IsFree value ∧ (value.mentions? "json" = some false → AreFreeUpToJson rest)))

/-- The elements of the value are content types. -/
@[mk_iff]
structure ContentTypePlaces (list : Value) : Prop where
  plain : IsPlain list
  each : ∀ types, list.elements? = some types → AreFreeUpToJson types

instance (list : Value) : Decidable (ContentTypePlaces list) :=
  decidable_of_iff' _ (contentTypePlaces_iff list)

@[mk_iff]
structure BodyPlaces (entries : Entries) : Prop where
  content : ContentTypePlaces (Value.fieldOr "content" entries (.map []))
  required : ∀ contentType,
    pickContentType (Value.fieldOr "content" entries (.map [])) = .ok (some contentType) →
      HasPlain "required" entries

instance : DecidablePred BodyPlaces := fun entries =>
  decidable_of_iff' _ (bodyPlaces_iff entries)

/-- The parameters of the older dialect that make up a body. -/
def MergedBodyPlaces (source : Source) (operation : Entries) (merged : List Entries) : Prop :=
  match merged.find? (isIn "body") with
  | some parameter =>
      ContentTypePlaces (inherited source "consumes" operation) ∧ HasPlain "required" parameter
  | none => ∀ form ∈ merged.filter (isIn "formData"),
      HasPlain "required" form ∧ HasPlain "type" form

instance (source : Source) (operation : Entries) (merged : List Entries) :
    Decidable (MergedBodyPlaces source operation merged) :=
  match found : merged.find? (isIn "body") with
  | some parameter =>
      decidable_of_iff
        (ContentTypePlaces (inherited source "consumes" operation) ∧ HasPlain "required" parameter)
        (by rw [MergedBodyPlaces, found])
  | none =>
      decidable_of_iff (∀ form ∈ merged.filter (isIn "formData"),
          HasPlain "required" form ∧ HasPlain "type" form)
        (by rw [MergedBodyPlaces, found])

/-- What is said about the content type of a response is no reference. -/
@[mk_iff]
structure ContentPlaces (content : Value) : Prop where
  types : ContentTypePlaces content
  media : ∀ contentType, pickContentType content = .ok (some contentType) → contentType.holds →
    ∀ media, mediaOf content contentType = .ok media → ofValue? media = none

instance (content : Value) : Decidable (ContentPlaces content) :=
  decidable_of_iff' _ (contentPlaces_iff content)

def ResponsePlaces (source : Source) (operation response : Entries) : Prop :=
  InDialect source.dialect
    (∀ node, Entries.field? "schema" response = some node →
      ContentTypePlaces (inherited source "produces" operation))
    (ContentPlaces (Value.fieldOr "content" response (.map [])))

instance (source : Source) (operation : Entries) :
    DecidablePred (ResponsePlaces source operation) := fun _ =>
  inferInstanceAs (Decidable (InDialect _ _ _))

/-! ## Operations -/

/-- An operation; `ofPath` are the parameters of its path. -/
@[mk_iff]
structure OperationPlaces (source : Source) (ofPath : Value) (operation : Entries) : Prop where
  shared : ParameterListPlaces source ofPath
  own : ParameterListPlaces source (Value.fieldOr "parameters" operation (.list []))
  parameters : ∀ merged,
    mergedParameters source ofPath (Value.fieldOr "parameters" operation (.list [])) = .ok merged →
      ∀ entries ∈ merged, ∀ location, locationOf entries = .ok (some location) →
        ParameterPlaces source entries
  body : InDialect source.dialect
    (∀ merged,
      mergedParameters source ofPath (Value.fieldOr "parameters" operation (.list [])) =
        .ok merged → MergedBodyPlaces source operation merged)
    (AtTarget source BodyPlaces (Value.fieldOrNull "requestBody" operation))
  tags : IsPlain (Value.fieldOr "tags" operation (.list []))
  eachTag : ∀ tags, Value.fieldElements "tags" operation = .ok tags → ∀ tag ∈ tags, IsFree tag
  responses : HasPlain "responses" operation
  eachResponse : ∀ responses, Value.fieldEntries "responses" operation = .ok responses →
    ∀ entry ∈ responses, entry.1.display.startsWith "x-" = false →
      AtTarget source (ResponsePlaces source operation) entry.2
  deprecated : HasPlain "deprecated" operation

instance (source : Source) (ofPath : Value) (operation : Entries) :
    Decidable (OperationPlaces source ofPath operation) :=
  decidable_of_iff' _ (operationPlaces_iff source ofPath operation)

@[mk_iff]
structure ItemPlaces (source : Source) (item : Entries) : Prop where
  methods : ∀ method ∈ Method.all, HasPlain method.name item
  each : ∀ method ∈ Method.all, ∀ operation,
    Entries.field? method.name item = some (.map operation) →
      OperationPlaces source (Value.fieldOr "parameters" item (.list [])) operation

instance (source : Source) : DecidablePred (ItemPlaces source) := fun item =>
  decidable_of_iff' _ (itemPlaces_iff source item)

@[mk_iff]
structure PathPlaces (source : Source) : Prop where
  paths : HasPlain "paths" source.entries
  each : ∀ paths, Value.fieldEntries "paths" source.entries = .ok paths →
    ∀ entry ∈ paths, entry.1.display.startsWith "x-" = false →
      AtTarget source (ItemPlaces source) entry.2

instance (source : Source) : Decidable (PathPlaces source) :=
  decidable_of_iff' _ (pathPlaces_iff source)

/-! ## The document -/

@[mk_iff]
structure InfoPlaces (entries : Entries) : Prop where
  info : HasPlain "info" entries
  shown : ∀ info, (Value.fieldOr "info" entries (.map [])).entries? = some info →
    HasFree "title" info ∧ HasFree "version" info

instance (entries : Entries) : Decidable (InfoPlaces entries) :=
  decidable_of_iff' _ (infoPlaces_iff entries)

/-- The variables of a server and their defaults. -/
@[mk_iff]
structure VariablePlaces (server : Entries) : Prop where
  known : HasPlain "variables" server
  each : ∀ known, Value.fieldEntries "variables" server = .ok known →
    ∀ entry ∈ known, ofValue? entry.2 = none ∧
      ∀ value, entry.2.field? "default" = some value → IsFree value

instance (server : Entries) : Decidable (VariablePlaces server) :=
  decidable_of_iff' _ (variablePlaces_iff server)

/-- The first server is the one that is read. -/
@[mk_iff]
structure ServerPlaces (entries : Entries) : Prop where
  servers : IsPlain (Value.fieldOr "servers" entries (.list []))
  first : ∀ server, (Value.fieldOr "servers" entries (.list [])).first? = some server →
    ofValue? server = none ∧ ∀ fields, server = .map fields → HasFree "url" fields ∧
      ((Value.fieldOrNull "url" fields).holds → VariablePlaces fields)

instance (entries : Entries) : Decidable (ServerPlaces entries) :=
  decidable_of_iff' _ (serverPlaces_iff entries)

@[mk_iff]
structure HostPlaces (entries : Entries) : Prop where
  host : HasFree "host" entries
  path : HasFree "basePath" entries
  schemes : (Value.fieldOrNull "host" entries).holds →
    IsPlain (Value.fieldOr "schemes" entries (.list [.str "https"])) ∧
      ∀ scheme, (Value.fieldOr "schemes" entries (.list [.str "https"])).first? = some scheme →
        IsFree scheme

instance (entries : Entries) : Decidable (HostPlaces entries) :=
  decidable_of_iff' _ (hostPlaces_iff entries)

@[mk_iff]
structure TagPlaces (entries : Entries) : Prop where
  tags : IsPlain (Value.fieldOr "tags" entries (.list []))
  each : ∀ nodes, Value.fieldElements "tags" entries = .ok nodes → ∀ node ∈ nodes,
    ofValue? node = none ∧ ∀ fields, node = .map fields → HasFree "name" fields

instance (entries : Entries) : Decidable (TagPlaces entries) :=
  decidable_of_iff' _ (tagPlaces_iff entries)

/-- The named schemas are listed, not referred to. -/
def DefinitionPlaces (entries : Entries) (dialect : Dialect) : Prop :=
  InDialect dialect (HasPlain "definitions" entries)
    (HasPlain "components" entries ∧
      ∀ components, Value.fieldEntries "components" entries = .ok components →
        HasPlain "schemas" components)

instance (entries : Entries) (dialect : Dialect) : Decidable (DefinitionPlaces entries dialect) :=
  inferInstanceAs (Decidable (InDialect _ _ _))

/-- References stand in the source only for path items, parameters, bodies, responses and schemas,
or where the import reads nothing. -/
@[mk_iff]
structure ReferencePlaces (source : Source) : Prop where
  root : ofValue? source.root = none
  marker : Entries.contains (.str "openapi") source.entries = false →
    HasFree "swagger" source.entries
  definitions : DefinitionPlaces source.entries source.dialect
  info : InfoPlaces source.entries
  base : InDialect source.dialect (HostPlaces source.entries) (ServerPlaces source.entries)
  tags : TagPlaces source.entries
  paths : PathPlaces source

instance (source : Source) : Decidable (ReferencePlaces source) :=
  decidable_of_iff' _ (referencePlaces_iff source)

end Import

end ApiForge

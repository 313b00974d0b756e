import ApiForge.Import.SchemaForm
import ApiForge.Import.Source
import ApiForge.Model.Operation

/-!
# Importing parameters

The parameters of a path hold for all its operations; a parameter of an
operation takes the place of those with its name. Bodies that the older dialect
writes as parameters are no parameters.
-/

namespace ApiForge.Import

/-- The mappings among nodes that may be references. -/
def resolvedMaps (source : Source) (nodes : List Value) : Except Abort (List Entries) := do
  let found ← nodes.mapM source.followEntries?
  pure (found.filterMap id)

def nameOf (entries : Entries) : Value :=
  Value.fieldOrNull "name" entries

/-- A name that others can be compared with; a collection is none. -/
def comparable? : Value → Option Scalar
  | .scalar name => some name
  | _ => none

/-- The parameter's name is none of these. -/
def isKept (overridden : List Scalar) (entries : Entries) : Except Abort Bool :=
  match nameOf entries with
  | .set _ => .ok true
  | name => (foreseen (comparable? name)).map fun name => !overridden.any (·.isSameKey name)

/-- The parameters of a path that no parameter of the operation overrides, then those. -/
def mergedParameters (source : Source) (ofPath ofOperation : Value) :
    Except Abort (List Entries) := do
  let ofPath ← resolvedMaps source (← foreseen ofPath.elements?)
  let ofOperation ← resolvedMaps source (← foreseen ofOperation.elements?)
  let overridden ← ofOperation.mapM fun entries => foreseen (comparable? (nameOf entries))
  let kept ← ofPath.filterM (isKept overridden)
  pure (kept ++ ofOperation)

/-- The place of a parameter, if it is one that a call can fill. -/
def locationOf (entries : Entries) : Except Abort (Option Location) :=
  match Value.fieldOrNull "in" entries with
  | .scalar (.str name) => .ok (Location.ofName? name)
  | .scalar _ => .ok none
  | .set _ => .ok none
  | _ => .error .unforeseen

/-- The text of a field, which is empty if the field is missing. -/
def displayedField (name : Text) (entries : Entries) : Text :=
  match Entries.field? name entries with
  | some value => value.display
  | none => []

/-- The type that a node's entries name. -/
def typeIn (entries : Option Entries) : Option Text :=
  match entries with
  | some entries => (splitType (Value.fieldOrNull "type" entries)).1
  | none => none

/-- The entries that say what type a parameter has. -/
def typeSource (source : Source) (entries : Entries) : Except Abort (Option Entries) :=
  match source.dialect with
  | .swagger => .ok (some entries)
  | .openApi => source.followEntries? (Value.fieldOr "schema" entries (.map []))

/-- The type of an array's items. -/
def itemsTypeIn (source : Source) (entries : Option Entries) : Except Abort (Option Text) :=
  match entries with
  | some entries => do
      let items ← source.followEntries? (Value.fieldOr "items" entries (.map []))
      pure (typeIn items)
  | none => .ok none

/-- A parameter at a location. -/
def parameterAt (source : Source) (location : Location) (entries : Entries) :
    Except Abort Parameter := do
  let typed ← typeSource source entries
  let type := typeIn typed
  let itemsType ← if type = some "array" then itemsTypeIn source typed else pure none
  let isRequired := (Value.fieldOrNull "required" entries).holds
  let given := match type with
    | some (letter :: rest) => letter :: rest
    | _ => "string"
  let make := Parameter.make location isRequired (displayedField "name" entries) given itemsType
  let format := match typed with
    | some typed => Value.fieldOrNull "format" typed
    | none => .null
  let format := (Checked.optionalText format).within "schema_format"
  let description :=
    (Checked.optionalText (Value.fieldOrNull "description" entries)).within "description"
  ((format.map make).and description).orAbort

/-- The parameters of an operation. -/
def parametersOf (source : Source) (merged : List Entries) : Except Abort (List Parameter) := do
  let found ← merged.mapM fun entries => do
    match ← locationOf entries with
    | some location => some <$> parameterAt source location entries
    | none => pure none
  pure (found.filterMap id)

end ApiForge.Import

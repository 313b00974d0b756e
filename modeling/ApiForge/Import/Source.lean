import ApiForge.Document.Access
import ApiForge.Document.Version
import ApiForge.Reference.Expand

/-!
# Sources

A description as the source of an API: the document, the dialect that it is
written in, and its named schemas.
-/

namespace ApiForge

/-- The two ways in which descriptions are written. -/
inductive Dialect where
  | openApi
  | swagger
  deriving DecidableEq, Repr

namespace Dialect

/-- A document without the newer marker whose older marker begins with `2.` is in the older
dialect. -/
def ofEntries (entries : Entries) : Dialect :=
  if Entries.contains (.str "openapi") entries then .openApi
  else
    match Entries.field? "swagger" entries with
    | some marker => if marker.display.startsWith "2." then .swagger else .openApi
    | none => .openApi

/-- The start of a reference to a named schema. -/
def schemaStart : Dialect → Text
  | .openApi => "#/components/schemas/"
  | .swagger => "#/definitions/"

/-- The named schemas of a document. -/
def definitions (dialect : Dialect) (entries : Entries) : Except Abort Entries :=
  match dialect with
  | .swagger => Value.fieldEntries "definitions" entries
  | .openApi => do
      let components ← Value.fieldEntries "components" entries
      Value.fieldEntries "schemas" components

end Dialect

structure Source where
  entries : Entries
  dialect : Dialect
  definitions : Entries
  references : List Text
  deriving Repr

namespace Source

def root (source : Source) : Value :=
  .map source.entries

/-- The source that a document is. -/
def ofDocument (document : Value) : Except Abort Source := do
  let entries ← foreseen document.entries?
  let dialect := Dialect.ofEntries entries
  let definitions ← dialect.definitions entries
  pure ⟨entries, dialect, definitions, Reference.distinctIn document⟩

/-- A value of the document, or what its references lead to. -/
def follow (source : Source) (value : Value) : Except Abort Value :=
  match Reference.followFrom source.root source.references value with
  | .ok found => .ok found
  | .error failure => .error (.failed failure)

/-- The entries of a value, or of what its references lead to. -/
def followEntries? (source : Source) (value : Value) : Except Abort (Option Entries) := do
  let found ← source.follow value
  pure found.entries?

/-- The name in a reference that points straight at a named schema. -/
def schemaName? (source : Source) (reference : Text) : Except Failure (Option Text) :=
  if !reference.startsWith "#/" then .error (.unresolvable reference .external)
  else
    let start := source.dialect.schemaStart
    let remainder := reference.drop start.length
    if !reference.startsWith start || remainder.isEmpty || remainder.contains '/' then .ok none
    else .ok (some (Reference.unescape remainder))

end Source

end ApiForge

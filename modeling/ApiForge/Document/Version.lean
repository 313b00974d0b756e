import ApiForge.Document.Display
import ApiForge.Failure

/-!
# Version markers

An API description says which kind it is: the field `openapi` begins with `3.`
or the field `swagger` begins with `2.`, as texts. The first of the two decides
if it holds such a text.
-/

namespace ApiForge.Document

/-- The text of a field that begins with a major version. -/
def marker? (name major : Text) (entries : Entries) : Option Text :=
  match Entries.field? name entries with
  | some value =>
      if value.isNull then none
      else if value.display.startsWith (major ++ ".") then some value.display else none
  | none => none

/-- The kind of a value, where the absence of a document has a name of its own. -/
def kindOrAbsent (value : Value) : Text :=
  if value.isNull then "empty document" else value.kindName

/-- The version marker of a description. -/
def version : Value → Except DocumentFault Text
  | .map entries =>
      match marker? "openapi" "3" entries with
      | some text => .ok text
      | none =>
          match marker? "swagger" "2" entries with
          | some text => .ok text
          | none => .error .unmarked
  | value => .error (.notAnObject (kindOrAbsent value))

end ApiForge.Document

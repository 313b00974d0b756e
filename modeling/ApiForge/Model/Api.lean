import ApiForge.Model.Operation
import ApiForge.Text.Distinct

/-!
# APIs

Everything that the artifacts are made from: the operations in document order,
the named schemas and the tags.
-/

namespace ApiForge

structure Tag where
  name : Text
  description : Option Text
  deriving DecidableEq, Repr

structure Api where
  title : Text
  version : Text
  description : Option Text
  baseUrl : Option Text
  operations : List Operation
  schemas : List (Text × Schema)
  tags : List Tag
  deriving Repr

/-- How much an API holds. -/
structure Stats where
  operations : Int
  schemas : Int
  tags : Int
  deriving DecidableEq, Repr

namespace Api

def stats (api : Api) : Stats :=
  ⟨api.operations.length, api.schemas.length, api.tags.length⟩

/-- The description of the first tag with this name. -/
def tagDescription (api : Api) (name : Text) : Option Text :=
  (api.tags.find? fun tag => tag.name == name).bind (·.description)

/-- The names of the groups in the order in which operations bring them up. -/
def groupNames (api : Api) : List Text :=
  Text.distinct (api.operations.map (·.group))

/-- The operations by group, in order. -/
def groups (api : Api) : List (Text × List Operation) :=
  api.groupNames.map fun name =>
    (name, api.operations.filter fun operation => operation.group == name)

end Api

end ApiForge

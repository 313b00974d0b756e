import ApiForge.Model.Schema

/-!
# Operations

One path with one method, the parameters it takes, the body it takes and the
responses it gives.
-/

namespace ApiForge

/-- The methods in the order in which a path's operations are listed. -/
inductive Method where
  | get
  | post
  | put
  | patch
  | delete
  | head
  | options
  | trace
  deriving DecidableEq, Repr

namespace Method

def name : Method → Text
  | .get => "get"
  | .post => "post"
  | .put => "put"
  | .patch => "patch"
  | .delete => "delete"
  | .head => "head"
  | .options => "options"
  | .trace => "trace"

/-- The name as it stands in a request. -/
def verb (method : Method) : Text :=
  method.name.toUpper

def all : List Method :=
  [.get, .post, .put, .patch, .delete, .head, .options, .trace]

end Method

/-- Where in a request a parameter stands. -/
inductive Location where
  | path
  | query
  | header
  | cookie
  deriving DecidableEq, Repr

namespace Location

def name : Location → Text
  | .path => "path"
  | .query => "query"
  | .header => "header"
  | .cookie => "cookie"

def all : List Location :=
  [.path, .query, .header, .cookie]

def ofName? (name : Text) : Option Location :=
  all.find? fun location => location.name == name

end Location

/-- A parameter outside the body. A path cannot lack a segment, so a path parameter is required. -/
structure Parameter where
  name : Text
  location : Location
  required : Bool
  type : Text
  format : Option Text
  itemsType : Option Text
  description : Option Text
  required_of_path : location = .path → required = true := by simp
  deriving DecidableEq, Repr

/-- The parameter with these parts; one of a path is required whatever is said. -/
def Parameter.make (location : Location) (required : Bool) (name type : Text)
    (itemsType format description : Option Text) : Parameter :=
  { name, location, type, format, itemsType, description
    required := required || location == .path
    required_of_path := by intro isPath; simp [isPath] }

structure RequestBody where
  required : Bool
  description : Option Text
  contentType : Text
  schema : Schema
  deriving Repr

structure Response where
  status : Text
  description : Text
  contentType : Option Text
  schema : Option Schema
  deriving Repr

structure Operation where
  identifier : Text
  method : Method
  path : Text
  summary : Option Text
  description : Option Text
  tags : List Text
  parameters : List Parameter
  body : Option RequestBody
  responses : List Response
  deprecated : Bool
  deriving Repr

namespace Operation

/-- The first tag; operations without tags share one group. -/
def group (operation : Operation) : Text :=
  operation.tags.headD "default"

/-- Method and path, as diagnostics name an operation. -/
def label (operation : Operation) : Text :=
  operation.method.verb ++ " " ++ operation.path

def parametersIn (operation : Operation) (location : Location) : List Parameter :=
  operation.parameters.filter fun parameter => parameter.location == location

/-- The parameters that a call passes as fields of one object. -/
def fields (operation : Operation) : List Parameter :=
  operation.parameters.filter fun parameter =>
    parameter.location == .path || parameter.location == .query

/-- A response of the second hundred that has a schema. -/
def isSuccess (response : Response) : Bool :=
  response.status.startsWith "2" && response.schema.isSome

/-- The response that a call returns. -/
def success? (operation : Operation) : Option Response :=
  operation.responses.find? isSuccess

end Operation

end ApiForge

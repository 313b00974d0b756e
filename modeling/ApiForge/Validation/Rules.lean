import ApiForge.Document.Access
import ApiForge.Model.Operation
import ApiForge.Reference.Expand
import ApiForge.Validation.SchemaType

/-!
# Rules

A description is valid if it breaks no rule: it is in an edition that is known,
says what it is about, has paths whose operations are complete and have
different identifiers, and all its references lead somewhere.
-/

namespace ApiForge.Validation

/-- The edition that a marker in the newer field names: `3.0.` and a digit or `3.1.` and a number,
and perhaps a hyphen and more. -/
def openApiEdition? (marker : Text) : Option Edition :=
  let ends (rest : Text) : Bool := rest.isEmpty || ("-".toList.isPrefixOf rest && rest != ['-'])
  match marker with
  | '3' :: '.' :: '0' :: '.' :: digit :: rest =>
      if digit.isDigit && ends rest then some .openApi30 else none
  | '3' :: '.' :: '1' :: '.' :: digit :: rest =>
      if digit.isDigit && ends (rest.dropWhile Char.isDigit) then some .openApi31 else none
  | _ => none

/-- The edition of a document. -/
def edition? (entries : Entries) : Option Edition :=
  match Value.fieldOrNull "openapi" entries with
  | .scalar (.str marker) => openApiEdition? marker
  | _ => if (Value.fieldOrNull "swagger" entries).isText "2.0" then some .swagger else none

def infoViolations (entries : Entries) : List Violation :=
  match Value.fieldOrNull "info" entries with
  | .map info =>
      (["title", "version"] : List Text).filterMap fun name =>
        if (Value.fieldOrNull name info).text?.isSome then none else some (.infoField name)
  | _ => [.noInfo]

/-- The names between the braces of a path, if all braces are closed. A name ends at a colon or
an exclamation mark. -/
def placeholders? (inside : Option Text) : Text → Option (List Text)
  | [] => if inside.isNone then some [] else none
  | letter :: rest =>
      match inside with
      | none =>
          if letter = '\x7b' then placeholders? (some []) rest
          else if letter = '\x7d' then none
          else placeholders? none rest
      | some name =>
          if letter = '\x7b' then none
          else if letter = '\x7d' then (placeholders? none rest).map (name :: ·)
          else placeholders? (some (name ++ [letter])) rest

def placeholderName (inside : Text) : Text :=
  inside.takeWhile fun letter => letter != ':' && letter != '!'

/-- Where a parameter may stand. -/
def Edition.locations : Edition → List Text
  | .swagger => ["path", "query", "header", "formData", "body"]
  | _ => ["path", "query", "header", "cookie"]

/-- A document as its rules see it. -/
structure Subject where
  edition : Edition
  root : Value
  references : List Text

namespace Subject

/-- A node, or what its references lead to. -/
def follow? (subject : Subject) (node : Value) : Option Value :=
  (Reference.followFrom subject.root subject.references node).toOption

/-- A parameter has a name and a location. -/
def isParameter (subject : Subject) (node : Value) : Bool :=
  match subject.follow? node with
  | some (.map entries) =>
      (Value.fieldOrNull "name" entries).text?.isSome &&
        ((Value.fieldOrNull "in" entries).text?.any subject.edition.locations.contains)
  | _ => false

/-- The name of a parameter that stands in a path. -/
def pathName? (subject : Subject) (node : Value) : Option Text :=
  match subject.follow? node with
  | some (.map entries) =>
      if (Value.fieldOrNull "in" entries).isText "path" then
        (Value.fieldOrNull "name" entries).text?
      else none
  | _ => none

/-- The parameters of a path item or an operation, if they are a list. -/
def parametersOf? (entries : Entries) : Option (List Value) :=
  match Entries.field? "parameters" entries with
  | none => some []
  | some (.list nodes) => some nodes
  | some _ => none

def parameterViolations (subject : Subject) (label : Text) (entries : Entries) : List Violation :=
  match parametersOf? entries with
  | some nodes => if nodes.all subject.isParameter then [] else [.badParameter label]
  | none => [.badField label "parameters"]

/-- Every placeholder of the path has a parameter. -/
def placeholderViolations (subject : Subject) (label path : Text) (nodes : List Value) :
    List Violation :=
  match placeholders? none path with
  | none => [.badTemplate path]
  | some insides =>
      let declared := nodes.filterMap subject.pathName?
      (insides.map placeholderName).filterMap fun name =>
        if name.isEmpty || declared.contains name then none else some (.undeclared label name)

/-- Fields of an operation that must have a certain type if they are there. -/
def fieldViolations (label : Text) (operation : Entries) : List Violation :=
  (match Entries.field? "tags" operation with
    | none => []
    | some (.list _) => []
    | some _ => [.badField label "tags"]) ++
  (match Entries.field? "deprecated" operation with
    | none => []
    | some (.scalar (.bool _)) => []
    | some _ => [.badField label "deprecated"]) ++
  match Entries.field? "responses" operation with
  | some (.map _) => []
  | _ => [.noResponses label]

def operationViolations (subject : Subject) (path : Text) (item : Entries) (method : Method) :
    List Violation :=
  let label := method.verb ++ " " ++ path
  match Entries.field? method.name item with
  | none => []
  | some (.map operation) =>
      let nodes := (parametersOf? item).getD [] ++ (parametersOf? operation).getD []
      fieldViolations label operation ++ subject.parameterViolations label operation ++
        subject.placeholderViolations label path nodes
  | some _ => [.badOperation label]

/-- The entries of a path item. -/
def item? (subject : Subject) (node : Value) : Option Entries :=
  (subject.follow? node).bind Value.entries?

def isExtension (path : Text) : Bool :=
  path.startsWith "x-"

def pathViolations (subject : Subject) (path : Text) (node : Value) : List Violation :=
  if isExtension path then []
  else if !path.startsWith "/" then [.badPath path]
  else
    match subject.item? node with
    | none => [.badPath path]
    | some item =>
        subject.parameterViolations path item ++
          Method.all.flatMap (subject.operationViolations path item)

/-- The identifiers of the operations of a path item. -/
def identifiersOf (subject : Subject) (path : Text) (node : Value) : List Text :=
  if isExtension path then []
  else
    match subject.item? node with
    | none => []
    | some item =>
        Method.all.filterMap fun method =>
          ((Value.fieldOrNull method.name item).field? "operationId").bind Value.text?

/-- The identifiers that are not the first of their kind. -/
def repeated (known : List Text) : List Text → List Text
  | [] => []
  | identifier :: rest =>
      if known.contains identifier then identifier :: repeated known rest
      else repeated (identifier :: known) rest

def pathsViolations (subject : Subject) (entries : Entries) : List Violation :=
  match Value.fieldOrNull "paths" entries with
  | .map paths =>
      let identifiers :=
        paths.flatMap fun (key, node) => subject.identifiersOf key.display node
      (paths.flatMap fun (key, node) => subject.pathViolations key.display node) ++
        (repeated [] identifiers).map .repeatedIdentifier
  | _ => [.noPaths]

def referenceViolations (subject : Subject) : List Violation :=
  subject.references.filterMap fun reference =>
    match Reference.target subject.root reference with
    | .ok _ => none
    | .error _ => some (.badReference reference)

end Subject

/-- The violations of a document. -/
def violations (document : Value) : List Violation :=
  match document with
  | .map entries =>
      match edition? entries with
      | none => [.version]
      | some edition =>
          let subject : Subject := ⟨edition, document, Reference.distinctIn document⟩
          infoViolations entries ++ subject.pathsViolations entries ++
            typeViolations edition .part document ++ subject.referenceViolations
  | _ => [.version]

/-- A valid document, with its references expanded if `dereference` says so. -/
def validate (dereference : Bool) (document : Value) : Except Abort Value :=
  match violations document with
  | violation :: _ =>
      .error (.failed (.invalid ("Specification failed validation: " ++ violation.message)))
  | [] =>
      if dereference then
        match Reference.expand document with
        | .ok expanded => .ok expanded
        | .error failure => .error (.failed failure)
      else .ok document

end ApiForge.Validation

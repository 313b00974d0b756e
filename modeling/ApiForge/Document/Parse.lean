import ApiForge.Document.Version
import ApiForge.Json.Reader
import ApiForge.Text.Blank
import ApiForge.Text.LowerCase
import ApiForge.Yaml.Value

/-!
# Reading documents

A document is JSON or YAML. JSON is tried first where the content type speaks of
it or the text begins with a brace; what is no JSON is read as YAML.
-/

namespace ApiForge.Document

/-- JSON is tried before YAML. -/
def triesJson (contentType text : Text) : Bool :=
  Text.holds contentType.lower "json" || text.stripStart.startsWith ['\x7b']

/-- The text read as YAML; `json` is why it is no JSON. -/
def parseYaml (json : Option Json.Fault) (text : Text) : Except Abort Value :=
  match Yaml.read text with
  | .ok value => .ok value
  | .error (.fault fault) => .error (.failed (.unusable (.unreadable json fault)))
  | .error .unforeseen => .error .unforeseen

/-- The value of a document. -/
def parse (contentType text : Text) : Except Abort Value :=
  if text.isAllBlank then .error (.failed (.unusable .empty))
  else if triesJson contentType text then
    match Json.read text with
    | .ok value => .ok value
    | .error fault =>
        if fault.cause = .numeralTooLong then .error .unforeseen else parseYaml (some fault) text
  else parseYaml none text

/-- The value of a document that carries a version marker. -/
def parseDescription (contentType text : Text) : Except Abort Value := do
  let value ← parse contentType text
  match version value with
  | .ok _ => pure value
  | .error fault => throw (.failed (.unusable fault))

end ApiForge.Document

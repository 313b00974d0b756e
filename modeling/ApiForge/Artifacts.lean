import ApiForge.Markdown.Layout
import ApiForge.TypeScript.Client

/-!
# Artifacts

The files made from an API: its types, its client and its documentation, in this
order.
-/

namespace ApiForge

/-- The artifacts that are wanted. -/
structure Selection where
  types : Bool
  client : Bool
  docs : Bool
  deriving DecidableEq, Repr

namespace Artifacts

def typesFile : Text :=
  "types.ts"

def clientFile : Text :=
  "client.ts"

def docsFile : Text :=
  "API.md"

def types (api : Api) : Except Failure Text :=
  (TypeScript.TypesFile.ofApi api).map (·.render)

def client (api : Api) (clientName : Text) : Except Failure Text :=
  (TypeScript.ClientFile.ofApi api clientName).map (·.render)

def docs (api : Api) (clientName : Text) : Except Failure Text :=
  (Markdown.Page.ofApi api clientName).map (·.render)

/-- The artifact of this name, if it is wanted. -/
def chosen (isWanted : Bool) (name : Text) (text : Except Failure Text) :
    Except Failure (List (Text × Text)) :=
  if isWanted then text.map fun text => [(name, text)] else .ok []

/-- The wanted files with their texts. -/
def render (api : Api) (clientName : Text) (selection : Selection) :
    Except Failure (List (Text × Text)) := do
  let types ← chosen selection.types typesFile (types api)
  let client ← chosen selection.client clientFile (client api clientName)
  let docs ← chosen selection.docs docsFile (docs api clientName)
  pure (types ++ client ++ docs)

end Artifacts

end ApiForge

import ApiForge.Record.Field
import ApiForge.Record.Scalar

/-!
# Settings

What a run may be told: where the clients go, how long a fetch may take, where
descriptions are looked for, whether references are replaced, and whether
documentation is made.
-/

namespace ApiForge

structure Settings where
  outputRoot : Text
  timeout : Binary64
  probePaths : List Text
  dereference : Bool
  docs : Bool
  deriving DecidableEq, Repr

namespace Settings

/-- Where descriptions usually are, the likeliest place first. -/
def conventionalPaths : List Text :=
  ["/openapi.json", "/openapi.yaml", "/swagger.json", "/swagger.yaml", "/api-docs",
    "/v3/api-docs", "/v2/api-docs", "/api/v3/openapi.json", "/api/v3/openapi.yaml",
    "/api/v2/swagger.json", "/docs/openapi.json", "/docs/swagger.json", "/api/openapi.json",
    "/api/swagger.json", "/.well-known/openapi.json"]

/-- Thirty seconds. -/
def usualTimeout : Binary64 :=
  .ofInt 30

def usualRoot : Text :=
  "./api-clients"

/-- Reads the record of settings; what it does not say is as usual. -/
def read (value : Value) : Checked Settings :=
  match value with
  | .map entries =>
      let outputRoot := Checked.fieldOr "output_dir" entries usualRoot Checked.text
      let timeout := Checked.fieldOr "timeout" entries usualTimeout Checked.positiveNumber
      let probePaths :=
        Checked.fieldOr "probe_paths" entries conventionalPaths
          (Checked.listOr .notList Checked.text)
      let dereference := Checked.fieldOr "dereference" entries false Checked.truth
      let docs := Checked.fieldOr "docs" entries true Checked.truth
      (outputRoot.map Settings.mk).and timeout |>.and probePaths |>.and dereference |>.and docs
  | _ => Checked.refuse (.notRecord "GeneratorConfig")

end Settings

end ApiForge

import ApiForge.Import.Source
import ApiForge.Url.Join

/-!
# Importing the base URL

The base URL of an API is its first server with the variables filled in, or in
the older dialect the first scheme, the host and the base path. A relative one is
joined to the URL that the description was found at.
-/

namespace ApiForge.Import

/-- The URL with one variable in braces replaced by its default. -/
def fillVariable (url : Text) (entry : Scalar × Value) : Text :=
  match entry.2.field? "default" with
  | some value => url.replace (['\x7b'] ++ entry.1.display ++ ['\x7d']) value.display
  | none => url

/-- The URL of a server. -/
def serverUrl (server : Entries) (url : Value) : Except Abort Text := do
  let known ← Value.fieldEntries "variables" server
  pure (known.foldl fillVariable url.display)

/-- The first server's URL, or null. -/
def serverBase (source : Source) : Except Abort Value := do
  let servers := Value.fieldOr "servers" source.entries (.list [])
  if !servers.holds then pure .null
  else
    match ← foreseen servers.first? with
    | .map server =>
        let url := Value.fieldOrNull "url" server
        if url.holds then Value.str <$> serverUrl server url else pure .null
    | _ => pure .null

/-- Scheme, host and base path, the base path alone where there is no host, or null. -/
def hostBase (source : Source) : Except Abort Value := do
  let host := Value.fieldOrNull "host" source.entries
  let path := Value.fieldOr "basePath" source.entries (.str [])
  if host.holds then
    let schemes := Value.fieldOr "schemes" source.entries (.list [.str "https"])
    let scheme ← foreseen schemes.first?
    pure (.str (scheme.display ++ "://" ++ host.display ++ path.display))
  else pure (if path.holds then path else .null)

/-- A base URL joined to where the description was found, if both are URLs. -/
def joinedBase (foundAt base : Text) : Text :=
  match Url.parse foundAt with
  | .error _ => base
  | .ok outer =>
      match Url.parse base with
      | .error _ => base
      | .ok inner =>
          match outer.join inner with
          | .ok joined => joined.spell
          | .error _ => base

/-- The base URL as it stands, or joined if it is relative. -/
def placedBase (foundAt : Option Text) (base : Value) : Except Abort Value :=
  match foundAt with
  | none => .ok base
  | some foundAt =>
      if !base.holds || foundAt.isEmpty then .ok base
      else do
        if ← foreseen (base.mentions? "://") then pure base
        else
          match base with
          | .scalar (.str text) => pure (.str (joinedBase foundAt text))
          | _ =>
              match Url.parse foundAt with
              | .ok _ => throw .unforeseen
              | .error _ => pure base

/-- The base URL of an API, not checked yet. -/
def baseUrlOf (source : Source) (foundAt : Option Text) : Except Abort Value := do
  let base ← match source.dialect with
    | .swagger => hostBase source
    | .openApi => serverBase source
  placedBase foundAt base

end ApiForge.Import

import ApiForge.Failure
import ApiForge.Url.Join

/-!
# Origins

The scheme, host and port of a URL, under which conventional paths are probed,
and the host, which names the client made from a description found there.
-/

namespace ApiForge.Url

/-- A text without the slashes at its end. -/
def withoutFinalSlashes (text : Text) : Text :=
  text.dropEnd (· == '/')

/-- The host of a URL as it is read. -/
def hostName (url : Url) : Except Abort Text :=
  match shownHost? url.host with
  | some host => .ok host
  | none => .error .unforeseen

/-- Scheme, host and port, or the text itself if it is no URL that has them. -/
def origin (text : Text) : Except Abort Text :=
  match parse text with
  | .error _ => .ok (withoutFinalSlashes text)
  | .ok url =>
      if url.scheme.isEmpty then .ok (withoutFinalSlashes text)
      else do
        let host ← url.hostName
        if host.isEmpty then pure (withoutFinalSlashes text)
        else
          let port := match url.port with
            | some number => ':' :: Text.ofInt number
            | none => []
          pure (url.scheme ++ "://" ++ bracketed host ++ port)

/-- The name of a client whose description has no host. -/
def unknownName : Text := "unknown-api"

/-- The name of the client made from the description at a URL. -/
def clientName (text : Text) : Except Abort Text :=
  match parse text with
  | .error _ => .ok unknownName
  | .ok url => do
      let host ← url.hostName
      pure (if host.isEmpty then unknownName else host)

end ApiForge.Url

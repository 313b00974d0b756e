import ApiForge.Url.Origin

/-!
# Exchanges

What the web answers when a URL is requested. Redirections are followed, up to a
limit, and every URL that was requested on the way is reported. A client is asked
for one URL after another, and what it answers may depend on what it was asked
before.
-/

namespace ApiForge.Discovery

/-- An answer, or why there is none: the kind of the trouble and its description. -/
inductive Reply where
  | answered (status : Nat) (contentType location : Option Text) (body : List UInt8)
  | broken (kind reason : Text)
  deriving DecidableEq, Repr

/-- The web answers the spelling of a URL. -/
abbrev Web := Text → Reply

/-- An answer that redirects no further. -/
structure Page where
  status : Nat
  contentType : Option Text
  body : List UInt8
  deriving DecidableEq, Repr

/-- The URLs requested in order, and the answer to the last or the reason why there is none. -/
structure Visit where
  requested : List Text
  result : Except Text Page

/-- The URL that a text asks for. A text without scheme and host asks for a path of no host. -/
def requestFor (text : Text) : Except Url.Fault Url := do
  let url ← Url.parse text
  if url.isAbsolute then pure url
  else
    let path := if url.path.isEmpty then ['/'] else url.path
    Url.ofParts ⟨[], [], '/' :: path.dropWhile (· == '/'), url.query, none⟩ none

/-- How many redirections are followed. -/
def greatestRedirections : Nat := 20

/-- These answers may redirect. -/
def redirects (status : Nat) : Bool :=
  [301, 302, 303, 307, 308].contains status

/-- A location with a scheme and no host has the host of the request. -/
def withHostOf (request url : Url) : Except Url.Fault Url :=
  if url.scheme.isEmpty || !url.host.isEmpty then .ok url
  else
    match Url.shownHost? request.host with
    | some host => Url.ofParts url.toParts (some (Url.bracketed host))
    | none => .error (.badHost request.host)

/-- The URL that an answer redirects to. A fragment of the request stays. -/
def redirection (request : Url) (location : Text) : Except Text Url :=
  match Url.parse location with
  | .error fault => .error ("Invalid URL in location header: " ++ fault.message ++ ".")
  | .ok url =>
      let target := do
        let url ← withHostOf request url
        let url ← if url.isAbsolute then pure url else request.join url
        if (url.fragment.getD []).isEmpty && !(request.fragment.getD []).isEmpty then
          pure { url with fragment := request.fragment }
        else pure url
      match target with
      | .ok url => .ok url
      | .error fault => .error fault.message

/-- Why a URL with this scheme cannot be requested. -/
def schemeTrouble? (scheme : Text) : Option Text :=
  if scheme.isEmpty then
    some "Request URL is missing an 'http://' or 'https://' protocol."
  else if scheme = "http" ∨ scheme = "https" then none
  else some ("Request URL has an unsupported protocol '" ++ scheme ++ "://'.")

/-- A description of trouble; trouble without one is told by its kind. -/
def troubleText (kind reason : Text) : Text :=
  if reason.isEmpty then kind else reason

/-- Requests a URL and then what it redirects to, `requests` URLs at most. -/
def visit (web : Web) : Nat → Url → Visit
  | 0, _ => ⟨[], .error "Exceeded maximum allowed redirects."⟩
  | requests + 1, url =>
      match schemeTrouble? url.scheme with
      | some trouble => ⟨[url.spell], .error trouble⟩
      | none =>
          match web url.spell with
          | .broken kind reason => ⟨[url.spell], .error (troubleText kind reason)⟩
          | .answered status contentType location body =>
              match location with
              | some location =>
                  if redirects status then
                    match redirection url location with
                    | .error trouble => ⟨[url.spell], .error trouble⟩
                    | .ok next =>
                        let rest := visit web requests next
                        ⟨url.spell :: rest.requested, rest.result⟩
                  else ⟨[url.spell], .ok ⟨status, contentType, body⟩⟩
              | none => ⟨[url.spell], .ok ⟨status, contentType, body⟩⟩

/-- What comes of asking for a URL after others. -/
structure Client where
  ask : List Text → Text → Visit

/-- The client that asks the web, which answers the same at all times. -/
def Client.ofWeb (web : Web) : Client where
  ask _ url :=
    match requestFor url with
    | .error fault => ⟨[], .error fault.message⟩
    | .ok request => visit web (greatestRedirections + 1) request

instance : Coe Web Client := ⟨Client.ofWeb⟩

end ApiForge.Discovery

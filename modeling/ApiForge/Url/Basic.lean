import ApiForge.Url.Host

/-!
# URLs

A URL in the form in which it is sent: scheme and host in small letters, the
port only where the scheme does not imply it, dots resolved in the path, and
everything that needs it percent-encoded.
-/

namespace ApiForge

structure Url where
  scheme : Text
  user : Text
  host : Text
  port : Option Int
  path : Text
  query : Option Text
  fragment : Option Text
  deriving DecidableEq, Repr

namespace Url

/-- The parts of a URL as they are written; each may be missing. -/
structure Parts where
  scheme : Text
  authority : Text
  path : Text
  query : Option Text
  fragment : Option Text
  deriving DecidableEq, Repr

def isSchemeChar (letter : Char) : Bool :=
  letter.isAlphanum || letter == '+' || letter == '.' || letter == '-'

/-- The scheme in front of a colon, and what follows. -/
def cutScheme (text : Text) : Text × Text :=
  match text with
  | ':' :: rest => ([], rest)
  | first :: _ =>
      if first.isAlpha then
        match text.dropWhile isSchemeChar with
        | ':' :: rest => (text.takeWhile isSchemeChar, rest)
        | _ => ([], text)
      else ([], text)
  | [] => ([], [])

/-- The authority after two slashes, and what follows. -/
def cutAuthority (text : Text) : Text × Text :=
  match text with
  | '/' :: '/' :: rest =>
      let inside (letter : Char) : Bool := letter != '/' && letter != '?' && letter != '#'
      (rest.takeWhile inside, rest.dropWhile inside)
  | _ => ([], text)

/-- Cuts a text at scheme, authority, query and fragment. -/
def parts (text : Text) : Parts :=
  let (scheme, rest) := cutScheme text
  let (authority, rest) := cutAuthority rest
  let (before, fragment) := rest.cutAt '#'
  let (path, query) := before.cutAt '?'
  ⟨scheme, authority, path, query, fragment⟩

/-- The part before the last occurrence of a character and the part after it. -/
def cutAtLast (separator : Char) (text : Text) : Option (Text × Text) :=
  let reversed := text.reverse
  match reversed.dropWhile (· != separator) with
  | [] => none
  | _ :: before => some (before.reverse, (reversed.takeWhile (· != separator)).reverse)

/-- Host and port of an authority without its user. A host in brackets ends at the last bracket. -/
def hostAndPort (text : Text) : Text × Text :=
  let bracketed := match text with
    | '[' :: _ => cutAtLast ']' text
    | _ => none
  let (host, rest) := match bracketed with
    | some (before, after) => (before ++ [']'], after)
    | none => (text.takeWhile (· != ':'), text.dropWhile (· != ':'))
  (host, match rest with
    | ':' :: port => port
    | port => port)

/-- The port that a scheme implies. -/
def defaultPort? (scheme : Text) : Option Int :=
  if scheme = "ftp" then some 21
  else if scheme = "http" ∨ scheme = "ws" then some 80
  else if scheme = "https" ∨ scheme = "wss" then some 443
  else none

/-- The port of a scheme as it is written. -/
def readPort (scheme port : Text) : Except Fault (Option Int) :=
  if port.isEmpty then .ok none
  else
    match Numeral.integer? port with
    | none => .error (.badPort port)
    | some number => .ok (if defaultPort? scheme = some number then none else some number)

/-- The segments without single dots; two dots take back the segment before them. -/
def resolveDots (resolved : List Text) : List Text → List Text
  | [] => resolved
  | segment :: rest =>
      if segment = "." then resolveDots resolved rest
      else if segment = ".." then
        resolveDots (if resolved = [[]] then resolved else resolved.dropLast) rest
      else resolveDots (resolved ++ [segment]) rest

def normalPath (path : Text) : Text :=
  Text.join ['/'] (resolveDots [] (path.splitOn '/'))

def checkPath (path : Text) (hasScheme hasAuthority : Bool) : Except Fault Unit :=
  if hasAuthority then
    if !path.isEmpty && !path.startsWith ['/'] then .error .pathWithoutSlash else .ok ()
  else if hasScheme then .ok ()
  else if path.startsWith "//" then .error .pathWithSlashes
  else if path.startsWith [':'] then .error .pathWithColon
  else .ok ()

/-- The URL of written parts; `host` takes the place of the authority's host if it is given. -/
def ofParts (parts : Parts) (host : Option Text) : Except Fault Url := do
  let (user, rest) := (cutAtLast '@' parts.authority).getD ([], parts.authority)
  let (ownHost, port) := hostAndPort rest
  let host ← encodeHost (host.getD ownHost)
  let port ← readPort parts.scheme port
  let user := percentEncode isUserSafe user
  let hasScheme := !parts.scheme.isEmpty
  let hasAuthority := !user.isEmpty || !host.isEmpty || port.isSome
  checkPath parts.path hasScheme hasAuthority
  let path := if hasScheme || hasAuthority then normalPath parts.path else parts.path
  pure {
    scheme := parts.scheme.map Char.toLower
    user
    host
    port
    path := percentEncode isPathSafe path
    query := parts.query.map (percentEncode isQuerySafe)
    fragment := parts.fragment.map (percentEncode isFragmentSafe) }

def greatestLength : Nat := 65536

/-- An ASCII character that cannot be seen. -/
def isControl (letter : Char) : Bool :=
  letter.toNat < 0x20 || letter.toNat == 0x7f

/-- The URL that a text spells. -/
def parse (text : Text) : Except Fault Url :=
  if greatestLength < text.length then .error .tooLong
  else
    match text.find? isControl with
    | some letter => .error (.unprintable letter (text.idxOf letter))
    | none => ofParts (parts text) none

/-- The host in a place where colons need brackets around them. -/
def bracketed (host : Text) : Text :=
  if host.contains ':' then '[' :: host ++ [']'] else host

def authority (url : Url) : Text :=
  let user := if url.user.isEmpty then [] else url.user ++ ['@']
  let port := match url.port with
    | some number => ':' :: Text.ofInt number
    | none => []
  user ++ bracketed url.host ++ port

/-- The parts in the form of the URL. -/
def toParts (url : Url) : Parts :=
  ⟨url.scheme, url.authority, url.path, url.query, url.fragment⟩

/-- Each part with the mark that tells it from the part before. -/
def spellParts (parts : Parts) : Text :=
  let scheme := if parts.scheme.isEmpty then [] else parts.scheme ++ [':']
  let authority := if parts.authority.isEmpty then [] else '/' :: '/' :: parts.authority
  let query := match parts.query with
    | some query => '?' :: query
    | none => []
  let fragment := match parts.fragment with
    | some fragment => '#' :: fragment
    | none => []
  scheme ++ authority ++ parts.path ++ query ++ fragment

def spell (url : Url) : Text :=
  spellParts url.toParts

/-- The URL names scheme and host. -/
def isAbsolute (url : Url) : Bool :=
  !url.scheme.isEmpty && !url.host.isEmpty

end Url

end ApiForge

import ApiForge.Url.Basic

/-!
# Joining URLs

A URL that is relative to another one takes from it what it lacks: the host, the
directory of the path, or all but the fragment. Only URLs of one scheme that
knows directories are joined; otherwise the second stands alone.
-/

namespace ApiForge.Url

/-- The schemes whose paths have directories. -/
def hasDirectories (scheme : Text) : Bool :=
  ["", "ftp", "http", "gopher", "nntp", "imap", "wais", "file", "https", "shttp", "mms",
    "prospero", "rtsp", "rtspu", "sftp", "svn", "svn+ssh", "ws", "wss"].contains
    (String.ofList scheme)

/-- The schemes whose URLs may name a host. -/
def hasHosts (scheme : Text) : Bool :=
  ["", "ftp", "http", "gopher", "nntp", "telnet", "imap", "wais", "file", "mms", "https", "shttp",
    "snews", "prospero", "rtsp", "rtspu", "rsync", "svn", "svn+ssh", "sftp", "nfs", "git",
    "git+ssh", "ws", "wss"].contains (String.ofList scheme)

/-- The schemes whose last segment may have parameters after a semicolon. -/
def hasParameters (scheme : Text) : Bool :=
  ["", "ftp", "hdl", "prospero", "http", "imap", "https", "shttp", "rtsp", "rtspu", "sip", "sips",
    "mms", "sftp", "tel"].contains (String.ofList scheme)

/-- A URL for joining: empty parts and missing parts are the same. -/
structure Loose where
  scheme : Text
  authority : Text
  path : Text
  parameters : Text
  query : Text
  fragment : Text
  deriving DecidableEq, Repr

/-- The parameters at the end of a path, after the first semicolon of the last segment. -/
def cutParameters (path : Text) : Text × Text :=
  let (directory, last) := match cutAtLast '/' path with
    | some (before, after) => (before ++ ['/'], after)
    | none => ([], path)
  let (name, parameters) := last.cutAt ';'
  (directory ++ name, parameters.getD [])

/-- The parts of a spelled URL, whose scheme may be taken from another one. -/
def loose (fallback text : Text) : Loose :=
  let (scheme, rest) := match cutScheme text with
    | ([], _) => (fallback, text)
    | (scheme, rest) => (scheme.map Char.toLower, rest)
  let (authority, rest) := cutAuthority rest
  let (before, fragment) := rest.cutAt '#'
  let (path, query) := before.cutAt '?'
  let (path, parameters) :=
    if hasParameters scheme && path.contains ';' then cutParameters path else (path, [])
  ⟨scheme, authority, path, parameters, query.getD [], fragment.getD []⟩

def Loose.spell (url : Loose) : Text :=
  let path := if url.parameters.isEmpty then url.path else url.path ++ [';'] ++ url.parameters
  let located :=
    if !url.authority.isEmpty ||
        (!url.scheme.isEmpty && hasHosts url.scheme && !path.startsWith "//") then
      let path := if !path.isEmpty && !path.startsWith ['/'] then '/' :: path else path
      '/' :: '/' :: url.authority ++ path
    else path
  (if url.scheme.isEmpty then [] else url.scheme ++ [':']) ++ located ++
    (if url.query.isEmpty then [] else '?' :: url.query) ++
    (if url.fragment.isEmpty then [] else '#' :: url.fragment)

/-- The segments between the first and the last without the empty ones. -/
def withoutEmptyMiddle (segments : List Text) : List Text :=
  match segments with
  | first :: second :: rest =>
      first :: ((second :: rest).dropLast.filter fun segment => !segment.isEmpty) ++
        [(second :: rest).getLast?.getD []]
  | segments => segments

/-- The segments with dots resolved. -/
def walkSegments (walked : List Text) : List Text → List Text
  | [] => walked
  | segment :: rest =>
      if segment = ".." then walkSegments walked.dropLast rest
      else if segment = "." then walkSegments walked rest
      else walkSegments (walked ++ [segment]) rest

/-- A path seen from the directory of another one. -/
def joinPaths (base path : Text) : Text :=
  let baseSegments := base.splitOn '/'
  let directory :=
    if baseSegments.getLast? == some [] then baseSegments else baseSegments.dropLast
  let segments :=
    if path.startsWith ['/'] then path.splitOn '/'
    else withoutEmptyMiddle (directory ++ path.splitOn '/')
  let walked := walkSegments [] segments
  let closed := segments.getLast?.any fun last => last == ['.'] || last == ['.', '.']
  match Text.join ['/'] (if closed then walked ++ [[]] else walked) with
  | [] => ['/']
  | joined => joined

/-- The spelling of a URL seen from another one. -/
def joinTexts (base text : Text) : Text :=
  if base.isEmpty then text
  else if text.isEmpty then base
  else
    let outer := loose [] base
    let inner := loose outer.scheme text
    if inner.scheme ≠ outer.scheme ∨ !hasDirectories inner.scheme then text
    else if hasHosts inner.scheme && !inner.authority.isEmpty then inner.spell
    else
      let authority := if hasHosts inner.scheme then outer.authority else inner.authority
      if inner.path.isEmpty && inner.parameters.isEmpty then
        { inner with
          authority
          path := outer.path
          parameters := outer.parameters
          query := if inner.query.isEmpty then outer.query else inner.query }.spell
      else { inner with authority, path := joinPaths outer.path inner.path }.spell

/-- A URL seen from another one. -/
def join (base url : Url) : Except Fault Url :=
  parse (joinTexts base.spell url.spell)

end ApiForge.Url

import ApiForge.Discovery.Charset
import ApiForge.Discovery.Exchange
import ApiForge.Document.Parse

/-!
# Fetching descriptions

A candidate is a URL whose answer may be an API description: an answer of the
second hundred whose body is a document with a version marker. What another
status means is said in words.
-/

namespace ApiForge.Discovery

/-- What the status of a reply means in words. -/
def phrases : List (Nat × String) := [
  (100, "Continue"), (101, "Switching Protocols"), (102, "Processing"), (103, "Early Hints"),
  (200, "OK"), (201, "Created"), (202, "Accepted"), (203, "Non-Authoritative Information"),
  (204, "No Content"), (205, "Reset Content"), (206, "Partial Content"), (207, "Multi-Status"),
  (208, "Already Reported"), (226, "IM Used"), (300, "Multiple Choices"),
  (301, "Moved Permanently"), (302, "Found"), (303, "See Other"), (304, "Not Modified"),
  (305, "Use Proxy"), (307, "Temporary Redirect"), (308, "Permanent Redirect"),
  (400, "Bad Request"), (401, "Unauthorized"), (402, "Payment Required"), (403, "Forbidden"),
  (404, "Not Found"), (405, "Method Not Allowed"), (406, "Not Acceptable"),
  (407, "Proxy Authentication Required"), (408, "Request Timeout"), (409, "Conflict"),
  (410, "Gone"), (411, "Length Required"), (412, "Precondition Failed"),
  (413, "Request Entity Too Large"), (414, "Request-URI Too Long"),
  (415, "Unsupported Media Type"), (416, "Requested Range Not Satisfiable"),
  (417, "Expectation Failed"), (418, "I'm a teapot"), (421, "Misdirected Request"),
  (422, "Unprocessable Entity"), (423, "Locked"), (424, "Failed Dependency"), (425, "Too Early"),
  (426, "Upgrade Required"), (428, "Precondition Required"), (429, "Too Many Requests"),
  (431, "Request Header Fields Too Large"), (451, "Unavailable For Legal Reasons"),
  (500, "Internal Server Error"), (501, "Not Implemented"), (502, "Bad Gateway"),
  (503, "Service Unavailable"), (504, "Gateway Timeout"), (505, "HTTP Version Not Supported"),
  (506, "Variant Also Negotiates"), (507, "Insufficient Storage"), (508, "Loop Detected"),
  (510, "Not Extended"), (511, "Network Authentication Required")]

/-- The phrase of a status with a space in front, if it has one. -/
def phraseAfter (status : Nat) : Text :=
  match phrases.find? (·.1 == status) with
  | some (_, phrase) => ' ' :: phrase.toList
  | none => []

/-! ## Candidates -/

/-- What came of a candidate, and the URLs requested for it. -/
structure Fetched where
  url : Text
  requested : List Text
  result : Except Abort Value

/-- The description that a page holds. -/
def pageDescription (url : Text) (page : Page) : Except Abort Value :=
  if 200 ≤ page.status ∧ page.status < 300 then
    match bodyText? page.contentType page.body with
    | some text => Document.parseDescription (page.contentType.getD []) text
    | none => .error .unforeseen
  else
    .error (.failed (.unreachable url
      ("HTTP " ++ Text.ofNat page.status ++ phraseAfter page.status) (some page.status)))

/-- The description at a URL that the client is asked for after others. -/
def fetchAfter (client : Client) (asked : List Text) (url : Text) : Fetched :=
  let visited := client.ask asked url
  match visited.result with
  | .error trouble => ⟨url, visited.requested, .error (.failed (.unreachable url trouble none))⟩
  | .ok page => ⟨url, visited.requested, pageDescription url page⟩

/-- The description at a URL. -/
def fetch (client : Client) (url : Text) : Fetched :=
  fetchAfter client [] url

end ApiForge.Discovery

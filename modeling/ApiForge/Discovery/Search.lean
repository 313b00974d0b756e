import ApiForge.Discovery.Fetch
import ApiForge.Document.Display
import ApiForge.Text.Blank

/-!
# Searching for descriptions

The search tries the start URL, then conventional paths under its origin, one
after the other. The first candidate that can be fetched and that the validator
accepts ends the search. A candidate that fails is noted with the first line of
its failure. What nothing is prepared for breaks the search off.
-/

namespace ApiForge.Discovery

/-- One try; on success there is no error. -/
structure Attempt where
  url : Text
  error : Option Text
  deriving DecidableEq, Repr

/-- A description with the URL it was found at and all tries in order. -/
structure Located where
  document : Value
  foundAt : Text
  attempts : List Attempt
  deriving Repr

/-- What a search came to, and the fetches it made in order. -/
structure Searched where
  fetches : List Fetched
  result : Except Abort Located

/-- The URLs requested for a search. -/
def Searched.requested (searched : Searched) : List Text :=
  searched.fetches.flatMap (·.requested)

/-- Accepts a description, perhaps in another form, or refuses it. -/
abbrev Validator := Value → Except Abort Value

/-- The first line of a failure's message; an empty message has none. -/
def firstLine? (failure : Failure) : Option Text :=
  failure.message.splitLines.head?

/-- A key as a place: truth values count as numbers. -/
def keyPlace : Scalar → Text
  | .bool value => if value then "1" else "0"
  | key => key.displayInside

/-- The keys of a located description are texts. -/
def keyFaults (document : Value) : List FieldFault :=
  match document with
  | .map entries =>
      entries.filterMap fun (key, _) =>
        match key with
        | .str _ => none
        | key => some ⟨["document", keyPlace key, "[key]"], .notText⟩
  | _ => [⟨["document"], .notMapping⟩]

def locatedAt (document : Value) (url : Text) (attempts : List Attempt) :
    Except Abort Located :=
  match keyFaults document with
  | [] => .ok ⟨document, url, attempts⟩
  | faults => .error (.malformed faults)

/-- What trying a candidate comes to: a description is accepted, the candidate is passed over with
the line that says why, or the search breaks off. -/
inductive Trial where
  | accepted (document : Value)
  | passedOver (error : Option Text)
  | brokenOff (abort : Abort)

/-- Null counts as no description, and nothing is said about it. -/
def Trial.ofResult : Except Abort Value → Trial
  | .ok document => if document.isNull then .passedOver none else .accepted document
  | .error (.failed failure) =>
      match firstLine? failure with
      | some line => .passedOver (some line)
      | none => .brokenOff .unforeseen
  | .error abort => .brokenOff abort

/-- Tries candidates in order after the attempts already made; `spent` is how the search goes on
when all of them are passed over. -/
def tryAll (client : Client) (validator : Validator) (spent : List Attempt → Searched)
    (attempts : List Attempt) : List Text → Searched
  | [] => spent attempts
  | url :: rest =>
      let fetched := fetchAfter client (attempts.map (·.url)) url
      match Trial.ofResult (fetched.result.bind validator) with
      | .accepted document => ⟨[fetched], locatedAt document url (attempts ++ [⟨url, none⟩])⟩
      | .passedOver error =>
          let searched := tryAll client validator spent (attempts ++ [⟨url, error⟩]) rest
          ⟨fetched :: searched.fetches, searched.result⟩
      | .brokenOff abort => ⟨[fetched], .error abort⟩

/-- The report of a search in vain. -/
def searchReport (start origin : Text) (attempts : List Attempt) : Failure :=
  .notFound ⟨start, origin, attempts.map (·.url), attempts.map (·.error.getD [])⟩

/-- Tries the conventional paths under the origin of the start URL. -/
def probe (client : Client) (validator : Validator) (paths : List Text) (start : Text)
    (attempts : List Attempt) : Searched :=
  match Url.origin start with
  | .error abort => ⟨[], .error abort⟩
  | .ok origin =>
      tryAll client validator
        (fun attempts => ⟨[], .error (.failed (searchReport start origin attempts))⟩)
        attempts (paths.map (origin ++ ·))

/-- Searches from a start URL. -/
def search (client : Client) (validator : Validator) (paths : List Text) (start : Text) :
    Searched :=
  tryAll client validator (probe client validator paths start) [] [start]

end ApiForge.Discovery

import ApiForge.Text.LowerCase
import ApiForge.Text.Quoted
import ApiForge.Url.Address
import ApiForge.Url.HostChar
import ApiForge.Url.Punycode

/-!
# Host names

A host is an address or a name. The labels of a name that are not ASCII have an
ASCII form with a mark in front. The direction in which labels are written is
not checked.
-/

namespace ApiForge.Url

/-- Why a text is no URL. -/
inductive Fault where
  | tooLong
  | unprintable (letter : Char) (position : Nat)
  | badPort (port : Text)
  | badAddress4 (host : Text)
  | badAddress6 (host : Text)
  | badHost (host : Text)
  | pathWithoutSlash
  | pathWithSlashes
  | pathWithColon
  deriving DecidableEq, Repr

def Fault.message : Fault → Text
  | .tooLong => "URL too long"
  | .unprintable letter position =>
      "Invalid non-printable ASCII character in URL, " ++ Text.quoted [letter] ++ " at position " ++
        Text.ofNat position ++ "."
  | .badPort port => "Invalid port: " ++ Text.quoted port
  | .badAddress4 host => "Invalid IPv4 address: " ++ Text.quoted host
  | .badAddress6 host => "Invalid IPv6 address: " ++ Text.quoted host
  | .badHost host => "Invalid IDNA hostname: " ++ Text.quoted host
  | .pathWithoutSlash => "For absolute URLs, path must be empty or begin with '/'"
  | .pathWithSlashes => "Relative URLs cannot have a path starting with '//'"
  | .pathWithColon => "Relative URLs cannot have a path starting with ':'"

/-! ## Names -/

/-- What marks the ASCII form of a label. -/
def labelMark : Text := "xn--"

/-- The labels of a name, which a dot of several scripts may separate. -/
def labels (name : Text) : List Text :=
  Text.splitOn '.' (name.map fun letter =>
    if letter == '\u3002' || letter == '\uFF0E' || letter == '\uFF61' then '.' else letter)

/-- A label that a name may have. -/
def isLabel (label : Text) : Bool :=
  !label.isEmpty && label.head? != some '-' && label.getLast? != some '-' &&
    (label.drop 2).take 2 != ['-', '-'] && !(label.head?.any isMark) && label.all isHostChar

def isAscii (text : Text) : Bool :=
  text.all (·.toNat < 128)

/-- A label as it is read: the ASCII form is undone. -/
def shownLabel? (label : Text) : Option Text :=
  if isAscii label then
    let small : Text := label.map Char.toLower
    if small.startsWith labelMark then
      let form := small.drop labelMark.length
      if form.isEmpty || form.getLast? == some '-' then none
      else (Punycode.decode? form).filter isLabel
    else if isLabel small then some small else none
  else if isLabel label then some label else none

/-- The ASCII form of a label. -/
def asciiLabel? (label : Text) : Option Text :=
  let form :=
    if isAscii label then (shownLabel? label).map fun _ => label
    else if isLabel label then some (labelMark ++ Punycode.encode label) else none
  form.filter (·.length ≤ 63)

/-- Applies a form to every label of a name, which a dot may end. -/
def mapLabels? (form : Text → Option Text) (name : Text) : Option Text :=
  let parts := labels name
  let closed := parts.getLast? == some []
  let parts := if closed then parts.dropLast else parts
  (parts.mapM form).map fun forms =>
    Text.join ['.'] (if closed then forms ++ [[]] else forms)

/-- The ASCII form of a name of at most 253 characters. -/
def asciiName? (name : Text) : Option Text :=
  (mapLabels? asciiLabel? name).filter fun form =>
    form.length ≤ if form.endsWith ['.'] then 254 else 253

/-- The form in which a URL holds a host. -/
def encodeHost (host : Text) : Except Fault Text :=
  if host.isEmpty then .ok []
  else if isNumeric4 3 false host then
    if isAddress4 host then .ok host else .error (.badAddress4 host)
  else if host.startsWith ['['] && host.endsWith [']'] then
    let address := (host.drop 1).dropLast
    if isAddress6 address then .ok address else .error (.badAddress6 host)
  else if isAscii host then .ok (percentEncode isHostSafe (host.map Char.toLower))
  else
    match asciiName? host.lower with
    | some name => .ok name
    | none => .error (.badHost host)

/-- A host as it is read; a name that begins with an ASCII form may have none. -/
def shownHost? (host : Text) : Option Text :=
  if host.startsWith labelMark then mapLabels? shownLabel? host else some host

end ApiForge.Url

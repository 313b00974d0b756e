import ApiForge.Text.Basic

/-!
# Tags of plain scalars

A scalar without quotes and without a tag gets its tag from its spelling: truth
values, whole and decimal numbers, null, moments, the merge key and the default
key each have a form; anything else is a text. One line feed at the end does not
count.
-/

namespace ApiForge.Yaml

/-- The tag of this name in the standard repository. -/
def standardTag (name : Text) : Text :=
  "tag:yaml.org,2002:" ++ name

def truthWords : List Text :=
  ["yes", "Yes", "YES", "no", "No", "NO", "true", "True", "TRUE", "false", "False", "FALSE",
    "on", "On", "ON", "off", "Off", "OFF"]

def nullWords : List Text :=
  ["~", "null", "Null", "NULL", ""]

/-- The text without one sign in front. -/
def unsigned : Text → Text
  | '+' :: rest => rest
  | '-' :: rest => rest
  | text => text

def isDigitOrUnderscore (letter : Char) : Bool :=
  letter.isDigit || letter == '_'

/-- A digit, then digits and underscores. -/
def isNumber : Text → Bool
  | first :: rest => first.isDigit && rest.all isDigitOrUnderscore
  | [] => false

/-- One or two digits below sixty. -/
def isSixtieth : Text → Bool
  | [digit] => digit.isDigit
  | [ten, digit] => ten.isDigit && ten.toNat < '6'.toNat && digit.isDigit
  | _ => false

/-- Groups of digits with colons between them, of which there is at least one. -/
def isSexagesimal (isFirst : Text → Bool) (text : Text) : Bool :=
  match text.splitOn ':' with
  | first :: second :: rest => isFirst first && (second :: rest).all isSixtieth
  | _ => false

/-- A number that does not start with zero. -/
def isProperNumber (text : Text) : Bool :=
  isNumber text && text.head? != some '0'

def isBinaryDigit (letter : Char) : Bool :=
  letter == '0' || letter == '1' || letter == '_'

def isOctalDigit (letter : Char) : Bool :=
  letter == '_' || ('0'.toNat ≤ letter.toNat && letter.toNat ≤ '7'.toNat)

def isHexDigit (letter : Char) : Bool :=
  letter.isDigit || letter == '_' || ('a'.toNat ≤ letter.toNat && letter.toNat ≤ 'f'.toNat) ||
    ('A'.toNat ≤ letter.toNat && letter.toNat ≤ 'F'.toNat)

/-- A whole number without sign: binary, octal, decimal, hexadecimal or sexagesimal. -/
def isWhole (text : Text) : Bool :=
  match text with
  | ['0'] => true
  | '0' :: 'b' :: digits => !digits.isEmpty && digits.all isBinaryDigit
  | '0' :: 'x' :: digits => !digits.isEmpty && digits.all isHexDigit
  | '0' :: digits => digits.all isOctalDigit
  | _ => isProperNumber text || isSexagesimal isProperNumber text

/-- Nothing, or a power of ten with a sign. -/
def isPower : Text → Bool
  | [] => true
  | letter :: sign :: digits =>
      (letter == 'e' || letter == 'E') && (sign == '-' || sign == '+') && !digits.isEmpty &&
        digits.all Char.isDigit
  | _ => false

/-- Digits and underscores, then perhaps a power. -/
def isFraction (text : Text) : Bool :=
  isPower (text.dropWhile isDigitOrUnderscore)

/-- A decimal number: a fraction after a number or, without a sign, by itself; a sexagesimal number
with a point; an infinite value; or not a number. -/
def isDecimal (text : Text) : Bool :=
  let magnitude := unsigned text
  match magnitude.cutAt '.' with
  | (_, none) => false
  | ([], some fraction) =>
      ["inf", "Inf", "INF"].contains (String.ofList fraction) ||
        (text == magnitude &&
          (["nan", "NaN", "NAN"].contains (String.ofList fraction) ||
            (fraction.head?.any Char.isDigit && isFraction fraction)))
  | (whole, some fraction) =>
      (isNumber whole && isFraction fraction) ||
        (isSexagesimal isNumber whole && fraction.all isDigitOrUnderscore)

/-- The parts of a moment that its spelling shows. -/
structure MomentParts where
  year : Text
  month : Text
  day : Text
  time : Option (Text × Text × Text × Text)
  zone : Option (Option (Char × Text × Text))
  deriving DecidableEq, Repr

/-- From `least` to `greatest` digits at the start, as many as there are, and what follows. -/
def digits? (least greatest : Nat) (text : Text) : Option (Text × Text) :=
  let found := (text.take greatest).takeWhile Char.isDigit
  if found.length < least then none else some (found, text.drop found.length)

/-- What follows one character. -/
def after? (letter : Char) : Text → Option Text
  | first :: rest => if first = letter then some rest else none
  | [] => none

def dropBlanks (text : Text) : Text :=
  text.dropWhile fun letter => letter == ' ' || letter == '\t'

/-- The zone at the end of a moment: nothing, `Z`, or a sign with hours and perhaps minutes. -/
def zone? (text : Text) : Option (Option (Option (Char × Text × Text))) :=
  if text.isEmpty then some none
  else
    match dropBlanks text with
    | ['Z'] => some (some none)
    | sign :: rest =>
        if sign == '+' || sign == '-' then do
          let (hours, rest) ← digits? 1 2 rest
          match rest with
          | [] => some (some (some (sign, hours, [])))
          | ':' :: rest =>
              let (minutes, rest) ← digits? 2 2 rest
              if rest.isEmpty then some (some (some (sign, hours, minutes))) else none
          | _ => none
        else none
    | [] => none

/-- The time after a day, with its fraction, and the zone. -/
def time? (text : Text) :
    Option ((Text × Text × Text × Text) × Option (Option (Char × Text × Text))) := do
  let rest := match text with
    | 'T' :: rest => some rest
    | 't' :: rest => some rest
    | _ => if (dropBlanks text).length < text.length then some (dropBlanks text) else none
  let (hour, rest) ← digits? 1 2 (← rest)
  let (minute, rest) ← digits? 2 2 (← after? ':' rest)
  let (second, rest) ← digits? 2 2 (← after? ':' rest)
  let (fraction, rest) := match rest with
    | '.' :: rest => (rest.takeWhile Char.isDigit, rest.dropWhile Char.isDigit)
    | _ => ([], rest)
  let zone ← zone? rest
  pure ((hour, minute, second, fraction), zone)

/-- A day, which a time may follow. -/
def momentParts? (text : Text) : Option MomentParts := do
  let (year, rest) ← digits? 4 4 text
  let (month, rest) ← digits? 1 2 (← after? '-' rest)
  let (day, rest) ← digits? 1 2 (← after? '-' rest)
  if rest.isEmpty then pure ⟨year, month, day, none, none⟩
  else
    let (time, zone) ← time? rest
    pure ⟨year, month, day, some time, zone⟩

/-- A day without a time has two digits for month and day. -/
def isMoment (text : Text) : Bool :=
  match momentParts? text with
  | some parts => parts.time.isSome || (parts.month.length == 2 && parts.day.length == 2)
  | none => false

/-- The text without one line feed at its end. -/
def withoutFinalBreak (text : Text) : Text :=
  if text.getLast? == some '\n' then text.dropLast else text

/-- The name of the standard tag of a plain scalar. -/
def plainKind (spelling : Text) : Text :=
  let text := withoutFinalBreak spelling
  if spelling == ['\n'] then "str"
  else if truthWords.contains text then "bool"
  else if isDecimal text then "float"
  else if isWhole (unsigned text) then "int"
  else if text = "<<" then "merge"
  else if nullWords.contains text then "null"
  else if isMoment text then "timestamp"
  else if text = "=" then "value"
  else if text = "!" ∨ text = "&" ∨ text = "*" then "yaml"
  else "str"

def plainTag (spelling : Text) : Text :=
  standardTag (plainKind spelling)

end ApiForge.Yaml

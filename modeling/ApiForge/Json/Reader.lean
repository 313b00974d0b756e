import ApiForge.Decimal.Numeral
import ApiForge.Document.Value
import ApiForge.Json.Fault
import ApiForge.Text.Surrogate

/-!
# Reading JSON

A JSON document may also hold the three numbers without digits, and strings may
name half surrogate pairs. A fault is reported at the first character that no
document with the same start has, a string without an end at its opening quote.
-/

namespace ApiForge.Json

/-- What stops a reader: the cause and how many characters were left. -/
structure Stop where
  cause : Cause
  left : Nat
  deriving DecidableEq, Repr

def stop {α : Type} (cause : Cause) (rest : Text) : Except Stop α :=
  .error ⟨cause, rest.length⟩

def isSpace (letter : Char) : Bool :=
  letter == ' ' || letter == '\t' || letter == '\n' || letter == '\r'

def skipSpace (text : Text) : Text :=
  text.dropWhile isSpace

def hexValue? (letter : Char) : Option Nat :=
  Numeral.digitIn? 16 letter

/-- The number that four hexadecimal digits spell, and what follows them. -/
def hexQuad? : Text → Option (Nat × Text)
  | first :: second :: third :: fourth :: rest => do
      let first ← hexValue? first
      let second ← hexValue? second
      let third ← hexValue? third
      let fourth ← hexValue? fourth
      pure (((first * 16 + second) * 16 + third) * 16 + fourth, rest)
  | _ => none

/-- The character of a one-letter escape. -/
def escaped? : Char → Option Char
  | '"' => some '"'
  | '\\' => some '\\'
  | '/' => some '/'
  | 'b' => some '\x08'
  | 'f' => some '\x0c'
  | 'n' => some '\n'
  | 'r' => some '\r'
  | 't' => some '\t'
  | _ => none

/-- What a numbered escape stands for, given what follows its four digits: two halves of a pair
that follow each other make one character. At least one character follows a readable escape. -/
def pairedEscape (unit : Nat) (rest : Text) : Except Stop (Char × Text) :=
  match rest with
  | '\\' :: 'u' :: digits =>
      if isHighSurrogate unit && 4 < digits.length then
        match hexQuad? digits with
        | some (low, after) =>
            if isLowSurrogate low then .ok (joinSurrogates unit low, after)
            else .ok (loneSurrogate unit, rest)
        | none => stop .badUnicodeEscape ('u' :: digits)
      else .ok ((charOfCodePoint? unit).getD '\uFFFD', rest)
  | _ => .ok ((charOfCodePoint? unit).getD '\uFFFD', rest)

/-- The characters up to the closing quote. `fuel` bounds the characters read. -/
def stringBody : Nat → Text → Except Stop (Text × Text)
  | 0, _ => stop .unterminatedString []
  | _ + 1, [] => stop .unterminatedString []
  | _ + 1, '"' :: rest => .ok ([], rest)
  | _ + 1, ['\\'] => stop .unterminatedString []
  | fuel + 1, '\\' :: 'u' :: digits =>
      match hexQuad? digits with
      | some (unit, after) =>
          if after.isEmpty then stop .badUnicodeEscape ('u' :: digits)
          else do
            let (letter, rest) ← pairedEscape unit after
            let (text, rest) ← stringBody fuel rest
            pure (letter :: text, rest)
      | none => stop .badUnicodeEscape ('u' :: digits)
  | fuel + 1, '\\' :: letter :: after =>
      match escaped? letter with
      | some letter => do
          let (text, rest) ← stringBody fuel after
          pure (letter :: text, rest)
      | none => stop .badEscape ('\\' :: letter :: after)
  | fuel + 1, letter :: after =>
      if letter.toNat < 0x20 then stop .controlCharacter (letter :: after)
      else do
        let (text, rest) ← stringBody fuel after
        pure (letter :: text, rest)

/-- A string whose opening quote is already read; one without an end is a fault of that quote. -/
def string (fuel : Nat) (after : Text) : Except Stop (Text × Text) :=
  match stringBody fuel after with
  | .error ⟨.unterminatedString, _⟩ => stop .unterminatedString ('"' :: after)
  | result => result

/-- The digits of a whole part: one zero, or digits that do not start with zero. -/
def wholeDigits : Text → Text × Text
  | '0' :: rest => (['0'], rest)
  | text => (text.takeWhile Char.isDigit, text.dropWhile Char.isDigit)

/-- A fraction, which needs a digit after the point. -/
def fractionDigits : Text → Text × Text
  | '.' :: rest =>
      let digits := rest.takeWhile Char.isDigit
      if digits.isEmpty then ([], '.' :: rest) else (digits, rest.dropWhile Char.isDigit)
  | text => ([], text)

/-- A power of ten, which needs a digit after its letter and sign. -/
def powerDigits (text : Text) : Option (Int × Text) :=
  match text with
  | letter :: rest =>
      if letter = 'e' ∨ letter = 'E' then
        let (negative, digits) := Numeral.signed rest
        match Numeral.natural? 10 (digits.takeWhile Char.isDigit) with
        | some power =>
            some (if negative then -(power : Int) else power, digits.dropWhile Char.isDigit)
        | none => none
      else none
  | [] => none

/-- The magnitude of a number: an integer, or a double if a fraction or a power follows. -/
def magnitude (negative : Bool) (text : Text) : Option (Except Cause (Scalar × Text)) :=
  let (whole, rest) := wholeDigits text
  if whole.isEmpty then none
  else
    let (fraction, afterFraction) := fractionDigits rest
    let number := (Numeral.natural? 10 (whole ++ fraction)).getD 0
    match powerDigits afterFraction with
    | some (power, rest) =>
        some (.ok (.float (.ofDecimal negative number (power - fraction.length)), rest))
    | none =>
        if fraction.isEmpty then
          if Numeral.greatestLength < whole.length then some (.error .numeralTooLong)
          else some (.ok (.int (if negative then -(number : Int) else number), afterFraction))
        else some (.ok (.float (.ofDecimal negative number (-(fraction.length : Int))), afterFraction))

/-- A number, which may have a minus sign but no plus sign. -/
def number (text : Text) : Except Stop (Value × Text) :=
  let result := match text with
    | '-' :: rest => magnitude true rest
    | _ => magnitude false text
  match result with
  | some (.ok (scalar, rest)) => .ok (.scalar scalar, rest)
  | some (.error cause) => stop cause text
  | none => stop .expectedValue text

/-- The words that stand for a value, each with its value. -/
def words : List (Text × Scalar) :=
  [("null", .null), ("true", .bool true), ("false", .bool false), ("NaN", .float .nan),
    ("Infinity", .float (.infinite false)), ("-Infinity", .float (.infinite true))]

/-- A word or a number. -/
def simple (text : Text) : Except Stop (Value × Text) :=
  match words.find? fun word => text.startsWith word.1 with
  | some (word, scalar) => .ok (.scalar scalar, text.drop word.length)
  | none => number text

mutual

/-- A value at the start of the text. Each value, member and element costs one unit of `fuel`, so
two units for each character are enough. -/
def value : Nat → Text → Except Stop (Value × Text)
  | 0, text => stop .expectedValue text
  | fuel + 1, text =>
      match text with
      | '"' :: rest => do
          let (text, rest) ← string fuel rest
          pure (.str text, rest)
      | '{' :: rest => do
          match skipSpace rest with
          | '}' :: rest => pure (.map [], rest)
          | rest =>
              let (entries, rest) ← members fuel rest
              pure (.map (Entries.ofList entries), rest)
      | '[' :: rest => do
          match skipSpace rest with
          | ']' :: rest => pure (.list [], rest)
          | rest =>
              let (items, rest) ← elements fuel rest
              pure (.list items, rest)
      | text => simple text

/-- The members of an object, of which there is at least one. -/
def members : Nat → Text → Except Stop (Entries × Text)
  | 0, text => stop .expectedName text
  | fuel + 1, text => do
      let (name, rest) ← match text with
        | '"' :: rest => string fuel rest
        | _ => stop .expectedName text
      let rest ← match skipSpace rest with
        | ':' :: rest => pure (skipSpace rest)
        | rest => stop .expectedColon rest
      let (item, rest) ← value fuel rest
      match skipSpace rest with
      | '}' :: rest => pure ([(.str name, item)], rest)
      | ',' :: rest =>
          let (others, rest) ← members fuel (skipSpace rest)
          pure ((.str name, item) :: others, rest)
      | rest => stop .expectedComma rest

/-- The elements of an array, of which there is at least one. -/
def elements : Nat → Text → Except Stop (List Value × Text)
  | 0, text => stop .expectedValue text
  | fuel + 1, text => do
      let (item, rest) ← value fuel text
      match skipSpace rest with
      | ']' :: rest => pure ([item], rest)
      | ',' :: rest =>
          let (others, rest) ← elements fuel (skipSpace rest)
          pure (item :: others, rest)
      | rest => stop .expectedComma rest

end

/-- The document that a text holds, with blanks around it and nothing else. -/
def document (text : Text) : Except Stop Value := do
  match text with
  | '\uFEFF' :: _ => stop .byteOrderMark text
  | _ =>
      let (item, rest) ← value (2 * text.length + 2) (skipSpace text)
      match skipSpace rest with
      | [] => pure item
      | rest => stop .extraData rest

/-- The value of a JSON text, or the fault at the offset where reading stopped. -/
def read (text : Text) : Except Fault Value :=
  match document text with
  | .ok item => .ok item
  | .error ⟨cause, left⟩ => .error (.ofOffset cause text (text.length - left))

end ApiForge.Json

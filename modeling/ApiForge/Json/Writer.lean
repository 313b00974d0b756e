import ApiForge.Decimal.Spelling
import ApiForge.Document.Value
import ApiForge.Text.Surrogate

/-!
# Writing JSON

A string is written between quotes with short escapes for the usual controls
and numbered ones for the others. In the ASCII form every other character is
numbered too, by its sixteen-bit units. A document is written on one line or
with one member a line.
-/

namespace ApiForge.Json

/-- A numbered escape of a sixteen-bit unit. -/
def numberedEscape (unit : Nat) : Text :=
  "\\u" ++ Text.hex 4 unit

/-- The spelling of a character inside a string. -/
def escapeChar (ascii : Bool) (letter : Char) : Text :=
  if letter = '"' then "\\\""
  else if letter = '\\' then "\\\\"
  else if letter = '\n' then "\\n"
  else if letter = '\r' then "\\r"
  else if letter = '\t' then "\\t"
  else if letter = '\x08' then "\\b"
  else if letter = '\x0c' then "\\f"
  else if letter.toNat < 0x20 then numberedEscape letter.toNat
  else if ascii && 0x7f ≤ letter.toNat then (codeUnits letter).flatMap numberedEscape
  else [letter]

/-- A string in quotes. -/
def quote (ascii : Bool) (text : Text) : Text :=
  '"' :: text.flatMap (escapeChar ascii) ++ ['"']

/-- The form of a scalar; days, moments and bytes have none. -/
def scalar? (ascii : Bool) : Scalar → Option Text
  | .null => some "null"
  | .bool true => some "true"
  | .bool false => some "false"
  | .int value => some (Text.ofInt value)
  | .float value => some (value.spell .json)
  | .str value => some (quote ascii value)
  | .date _ => none
  | .moment _ => none
  | .bytes _ => none

/-- The form of a key: the text itself, or the form of another scalar as a text. -/
def key? (ascii : Bool) : Scalar → Option Text
  | .str value => some (quote ascii value)
  | scalar => (scalar? ascii scalar).map (quote ascii)

/-- How values are laid out: on one line, or with members indented by two spaces a level. -/
inductive Layout where
  | line
  | indented
  deriving DecidableEq, Repr

namespace Layout

def newLine (depth : Nat) : Text :=
  '\n' :: List.replicate (2 * depth) ' '

/-- The parts between brackets, for a value nested `depth` deep. -/
def brackets (layout : Layout) (depth : Nat) (opening closing : Char) (parts : List Text) : Text :=
  match layout, parts with
  | _, [] => [opening, closing]
  | .line, parts => opening :: Text.join ", " parts ++ [closing]
  | .indented, parts =>
      opening :: newLine (depth + 1) ++ Text.join (',' :: newLine (depth + 1)) parts ++
        newLine depth ++ [closing]

end Layout

mutual

/-- The form of a value nested `depth` deep. -/
def form? (layout : Layout) (ascii : Bool) (depth : Nat) : Value → Option Text
  | .scalar value => scalar? ascii value
  | .list items => (formItems? layout ascii (depth + 1) items).map (layout.brackets depth '[' ']')
  | .map entries =>
      (formEntries? layout ascii (depth + 1) entries).map (layout.brackets depth '{' '}')
  | .set _ => none
  | .pair first second => do
      let first ← form? layout ascii (depth + 1) first
      let second ← form? layout ascii (depth + 1) second
      pure (layout.brackets depth '[' ']' [first, second])
  termination_by structural value => value

def formItems? (layout : Layout) (ascii : Bool) (depth : Nat) : List Value → Option (List Text)
  | [] => some []
  | item :: rest => do
      let first ← form? layout ascii depth item
      let others ← formItems? layout ascii depth rest
      pure (first :: others)
  termination_by structural items => items

def formEntries? (layout : Layout) (ascii : Bool) (depth : Nat) :
    List (Scalar × Value) → Option (List Text)
  | [] => some []
  | (key, item) :: rest => do
      let key ← key? ascii key
      let item ← form? layout ascii depth item
      let others ← formEntries? layout ascii depth rest
      pure ((key ++ ": " ++ item) :: others)
  termination_by structural entries => entries

end

/-- The document on one line. -/
def line? (ascii : Bool) (value : Value) : Option Text :=
  form? .line ascii 0 value

/-- The document with one member a line. -/
def indented? (value : Value) : Option Text :=
  form? .indented false 0 value

end ApiForge.Json

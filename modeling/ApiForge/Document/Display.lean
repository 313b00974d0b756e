import ApiForge.Decimal.Spelling
import ApiForge.Document.Value
import ApiForge.Text.Quoted

/-!
# Displayed values

The text that stands for a value where a document holds something else than the
text asked for. A text displays as itself; inside another value it is quoted.
-/

namespace ApiForge

namespace Moment

/-- The time without the trailing parts that are zero. -/
def displayParts (moment : Moment) : List Nat :=
  [moment.date.year, moment.date.month, moment.date.day, moment.hour, moment.minute] ++
    if moment.microsecond ≠ 0 then [moment.second, moment.microsecond]
    else if moment.second ≠ 0 then [moment.second]
    else []

def displayOffset (minutes : Int) : Text :=
  if minutes = 0 then "datetime.timezone.utc"
  else
    let seconds := minutes * 60
    let days := if seconds < 0 then "days=-1, " else ""
    "datetime.timezone(datetime.timedelta(" ++ days ++ "seconds=" ++
      Text.ofInt (seconds % 86400) ++ "))"

def display (moment : Moment) : Text :=
  "datetime.datetime(" ++ Text.join ", " (moment.displayParts.map Text.ofNat) ++
    (match moment.offset with
    | some minutes => ", tzinfo=" ++ displayOffset minutes
    | none => []) ++ ")"

end Moment

/-- The form of a scalar inside another value. -/
def Scalar.displayInside : Scalar → Text
  | .null => "None"
  | .bool true => "True"
  | .bool false => "False"
  | .int value => Text.ofInt value
  | .float value => value.spell .display
  | .str value => value.quoted
  | .date value =>
      "datetime.date(" ++ Text.join ", " ([value.year, value.month, value.day].map Text.ofNat) ++ ")"
  | .moment value => value.display
  | .bytes value => 'b' :: Text.quoted (value.map fun byte => Char.ofNat byte.toNat)

mutual

/-- The form of a value inside another one. -/
def Value.displayInside : Value → Text
  | .scalar value => value.displayInside
  | .list items => "[" ++ Text.join ", " (Value.displayItems items) ++ "]"
  | .map entries => "\x7b" ++ Text.join ", " (Value.displayEntries entries) ++ "\x7d"
  | .set [] => "set()"
  | .set members => "\x7b" ++ Text.join ", " (members.map Scalar.displayInside) ++ "\x7d"
  | .pair first second => "(" ++ first.displayInside ++ ", " ++ second.displayInside ++ ")"
  termination_by structural value => value

def Value.displayItems : List Value → List Text
  | [] => []
  | item :: rest => item.displayInside :: Value.displayItems rest
  termination_by structural items => items

def Value.displayEntries : List (Scalar × Value) → List Text
  | [] => []
  | (key, value) :: rest =>
      (key.displayInside ++ ": " ++ value.displayInside) :: Value.displayEntries rest
  termination_by structural entries => entries

end

/-- The text of a scalar on its own. -/
def Scalar.display : Scalar → Text
  | .str value => value
  | .date value => value.spell
  | .moment value => value.spell ' '
  | scalar => scalar.displayInside

/-- The text of a value on its own. -/
def Value.display : Value → Text
  | .scalar value => value.display
  | value => value.displayInside

end ApiForge

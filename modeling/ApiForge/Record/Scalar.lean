import ApiForge.Decimal.Numeral
import ApiForge.Record.Checked

/-!
# Scalar fields

Truth values and numbers may be written in several ways: a truth value as a
word, zero or one, and a number as a text. A text is read without the blanks
around it.
-/

namespace ApiForge.Checked

/-- The text without blanks around it; the separators of files and records are not blank here. -/
def trimmed (text : Text) : Text :=
  let isSpace (letter : Char) : Bool :=
    isBlank letter && !(0x1c ≤ letter.toNat && letter.toNat ≤ 0x1f)
  Text.dropEnd isSpace (text.dropWhile isSpace)

def falseWords : List Text :=
  ["0", "off", "f", "false", "n", "no"]

def trueWords : List Text :=
  ["1", "on", "t", "true", "y", "yes"]

/-- The truth value that a word stands for, in letters of any case. -/
def truthOfWord (word : Text) : Checked Bool :=
  let small := word.map Char.toLower
  if falseWords.contains small then .ok false
  else if trueWords.contains small then .ok true
  else refuse .unreadableTruth

/-- The truth value that a number stands for. -/
def truthOfInt (number : Int) : Checked Bool :=
  if number = 0 then .ok false else if number = 1 then .ok true else refuse .unreadableTruth

def truth : Value → Checked Bool
  | .scalar (.bool value) => .ok value
  | .scalar (.str word) => truthOfWord word
  | .scalar (.int number) =>
      match Binary64.ofInt number with
      | .infinite _ => refuse .notTruth
      | _ => truthOfInt number
  | .scalar (.float number) =>
      match number.toInt? with
      | some number => truthOfInt number
      | none => refuse .notTruth
  | _ => refuse .notTruth

/-- The number that a text spells. An underscore may stand between two digits, if no blanks are
around. -/
def numberOfText (text : Text) : Checked Binary64 :=
  match Numeral.double? (trimmed text) with
  | some number => .ok number
  | none =>
      match (Numeral.joined? false text).bind Numeral.double? with
      | some number => .ok number
      | none => refuse .unreadableNumber

def number : Value → Checked Binary64
  | .scalar (.float number) => .ok number
  | .scalar (.bool value) => .ok (Binary64.ofInt (if value then 1 else 0))
  | .scalar (.str text) => numberOfText text
  | .scalar (.int number) =>
      match Binary64.ofInt number with
      | .infinite _ => refuse .notNumber
      | double => .ok double
  | _ => refuse .notNumber

def positiveNumber (value : Value) : Checked Binary64 :=
  match number value with
  | .ok number => if number.isPositive then .ok number else refuse .notPositive
  | .error faults => .error faults

/-- The digits in front of a point that only zeros follow. -/
def dropZeroFraction (text : Text) : Text :=
  match text.cutAt '.' with
  | (whole, some fraction) => if fraction.all (· == '0') then whole else text
  | (whole, none) => whole

/-- The integer that a text spells. -/
def integerOfText (text : Text) : Checked Int :=
  let (negative, digits) := Numeral.signed (trimmed text)
  let digits := dropZeroFraction digits
  if Numeral.greatestLength < digits.length then refuse .tooManyDigits
  else if negative && digits.startsWith "0" && 1 < digits.length then refuse .unreadableInteger
  else
    match (Numeral.joined? false digits).bind (Numeral.natural? 10) with
    | some number => .ok (if negative then -(number : Int) else number)
    | none => refuse .unreadableInteger

def integer : Value → Checked Int
  | .scalar (.int number) => .ok number
  | .scalar (.bool value) => .ok (if value then 1 else 0)
  | .scalar (.str text) => integerOfText text
  | .scalar (.float number) =>
      match number.units?, number.toInt? with
      | none, _ => refuse .notFinite
      | some _, some number => .ok number
      | some _, none => refuse .fractional
  | _ => refuse .notInteger

end ApiForge.Checked

import ApiForge.Decimal.Binary64
import ApiForge.Text.Blank

/-!
# Numerals

How a text is read as a number: blanks other than information separators may
stand around it and a sign in front, the digits may be those of any script, and
an underscore may stand between two digits. A decimal has a fraction and a power
of ten, each optional, or names an infinite value or not a number. Every script
with decimal digits has ten of them in a row, so the digit zero of each script
fixes the value of the nine that follow.
-/

namespace ApiForge

/-- The digit zero of each script, in ascending order. -/
def digitZeros : List Nat := [
  48, 1632, 1776, 1984, 2406, 2534, 2662, 2790, 2918, 3046, 3174, 3302, 3430, 3558, 3664, 3792,
  3872, 4160, 4240, 6112, 6160, 6470, 6608, 6784, 6800, 6992, 7088, 7232, 7248, 42528, 43216,
  43264, 43472, 43504, 43600, 44016, 65296, 66720, 68912, 69734, 69872, 69942, 70096, 70384,
  70736, 70864, 71248, 71360, 71472, 71904, 72016, 72784, 73040, 73120, 92768, 92864, 93008,
  120782, 120792, 120802, 120812, 120822, 123200, 123632, 125264, 130032]

/-- The value of a decimal digit of any script. -/
def digitValue? (letter : Char) : Option Nat :=
  if letter.isDigit then some (letter.toNat - '0'.toNat)
  else
    (digitZeros.find? fun start => start ≤ letter.toNat && letter.toNat < start + 10).map
      (letter.toNat - ·)

end ApiForge

namespace ApiForge.Numeral

/-- Numerals with more digits than this are refused. -/
def greatestLength : Nat := 4300

/-- What may stand around a numeral: every blank but the four information separators. -/
def isMargin (letter : Char) : Bool :=
  isBlank letter && !(0x1c ≤ letter.toNat && letter.toNat ≤ 0x1f)

/-- A digit in its ASCII form, and a space in the place of a margin. -/
def plainLetter (letter : Char) : Char :=
  match digitValue? letter with
  | some value => Char.ofNat (value + 48)
  | none => if isMargin letter then ' ' else letter

/-- The text in plain letters without its margins. -/
def plain (text : Text) : Text :=
  Text.dropEnd isMargin ((text.map plainLetter).dropWhile isMargin)

/-- The text without its underscores, each of which stands between two digits. -/
def joined? (previousIsDigit : Bool) : Text → Option Text
  | [] => some []
  | '_' :: rest =>
      match rest with
      | next :: _ => if previousIsDigit && next.isDigit then joined? false rest else none
      | [] => none
  | letter :: rest => (joined? letter.isDigit rest).map (letter :: ·)

/-- The sign in front, and what follows it. -/
def signed : Text → Bool × Text
  | '-' :: rest => (true, rest)
  | '+' :: rest => (false, rest)
  | text => (false, text)

def digitIn? (base : Nat) (letter : Char) : Option Nat :=
  let value :=
    if letter.isDigit then letter.toNat - 48
    else if letter.isLower then letter.toNat - 87
    else if letter.isUpper then letter.toNat - 55
    else base
  if value < base then some value else none

/-- The number that digits of a base spell. -/
def natural? (base : Nat) (digits : Text) : Option Nat :=
  if digits.isEmpty then none
  else digits.foldlM (fun number letter => (digitIn? base letter).map (number * base + ·)) 0

/-- A whole numeral in base ten. -/
def integer? (text : Text) : Option Int := do
  let (negative, digits) := signed (plain text)
  let digits ← joined? false digits
  if greatestLength < digits.length then none
  let number ← natural? 10 digits
  pure (if negative then -(number : Int) else number)

/-- The digits of a decimal without sign: `digits`, `digits.`, `.digits` or `digits.digits`, then
a power of ten if a sign or digit follows the letter. -/
def unsigned? (text : Text) : Option (Nat × Int) := do
  let whole := text.takeWhile Char.isDigit
  let rest := text.dropWhile Char.isDigit
  let (fraction, rest) := match rest with
    | '.' :: rest => (rest.takeWhile Char.isDigit, rest.dropWhile Char.isDigit)
    | _ => ([], rest)
  let number ← natural? 10 (whole ++ fraction)
  let power ← match rest with
    | [] => some 0
    | letter :: rest =>
        if letter = 'e' ∨ letter = 'E' then do
          let (negative, digits) := signed rest
          let power ← natural? 10 digits
          some (if negative then -(power : Int) else power)
        else none
  pure (number, power - fraction.length)

/-- The values that have a name instead of digits. -/
def named? (negative : Bool) (text : Text) : Option Binary64 :=
  let small := text.map Char.toLower
  if small = "inf" ∨ small = "infinity" then some (.infinite negative)
  else if small = "nan" then some .nan
  else none

/-- A decimal numeral in ASCII without blanks or underscores, with a sign. -/
def double? (text : Text) : Option Binary64 :=
  let (negative, rest) := signed text
  match named? negative rest with
  | some value => some value
  | none => (unsigned? rest).map fun (digits, power) => Binary64.ofDecimal negative digits power

/-- A decimal numeral with blanks around it, digits of any script and underscores. -/
def float? (text : Text) : Option Binary64 :=
  (joined? false (plain text)).bind double?

end ApiForge.Numeral

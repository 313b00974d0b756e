import ApiForge.Decimal.Shortest

/-!
# Spelling of doubles

A format decides where a decimal is written with a plain point and where with a
power of ten, and how the three values without digits are named.
-/

namespace ApiForge

/-- A decimal is written positionally while its leading digit stands at most `widest` places
before the point and at most `deepest` zeros follow the point; a power of ten has a sign and at
least two digits. -/
structure FloatSpelling where
  widest : Int := 16
  deepest : Int := 3
  notANumber : Text
  infinity : Text

/-- The spelling inside a displayed value. -/
def FloatSpelling.display : FloatSpelling :=
  { notANumber := "nan", infinity := "inf" }

/-- The spelling inside a JSON document. -/
def FloatSpelling.json : FloatSpelling :=
  { notANumber := "NaN", infinity := "Infinity" }

namespace Decimal

/-- Positional when the point is near the digits, and with a point in any case. -/
def spell (format : FloatSpelling) (decimal : Decimal) : Text :=
  let digits := Text.ofNat decimal.digits
  let point : Int := decimal.power + digits.length
  if -format.deepest ≤ point ∧ point ≤ format.widest then
    if point ≤ 0 then "0." ++ List.replicate point.natAbs '0' ++ digits
    else if digits.length ≤ point.toNat then
      digits ++ List.replicate (point.toNat - digits.length) '0' ++ ".0"
    else digits.take point.toNat ++ "." ++ digits.drop point.toNat
  else
    let power := point - 1
    let fraction := digits.drop 1
    digits.take 1 ++ (if fraction.isEmpty then [] else '.' :: fraction) ++ "e" ++
      (if power < 0 then "-" else "+") ++ Text.padded 2 power.natAbs

end Decimal

/-- The text of a double without its sign. -/
def Binary64.spellMagnitude (format : FloatSpelling) : Binary64 → Text
  | .nan => format.notANumber
  | .infinite _ => format.infinity
  | .finite _ 0 _ => "0.0"
  | .finite _ mantissa exponent => (Binary64.shortest mantissa exponent).spell format

def Binary64.isNegative : Binary64 → Bool
  | .nan => false
  | .infinite negative => negative
  | .finite negative _ _ => negative

/-- The text of a double: the shortest decimal, in the places that the format gives. -/
def Binary64.spell (format : FloatSpelling) (number : Binary64) : Text :=
  (if number.isNegative then ['-'] else []) ++ number.spellMagnitude format

end ApiForge

import ApiForge.Decimal.Numeral
import ApiForge.Yaml.Resolve

/-!
# Numbers

The values of whole and decimal numbers, binary, octal, decimal, hexadecimal or
in base sixty with colons. An explicit tag may ask for the number of any text,
so there are texts without one.
-/

namespace ApiForge.Yaml

/-- A base may be named in front of its digits. -/
def withoutBase (base : Nat) (digits : Text) : Text :=
  match digits with
  | '0' :: letter :: rest =>
      if (base = 2 ∧ letter.toLower = 'b') ∨ (base = 8 ∧ letter.toLower = 'o') ∨
          (base = 16 ∧ letter.toLower = 'x') then rest
      else digits
  | _ => digits

/-- The whole number in a base that is a power of two. -/
def radix? (base : Nat) (text : Text) : Option Int := do
  let (negative, digits) := Numeral.signed (Numeral.plain text)
  let number ← Numeral.natural? base (withoutBase base digits)
  pure (if negative then -(number : Int) else number)

/-- The value of digits in base sixty. -/
def sixtieths (parts : List Int) : Int :=
  parts.foldl (fun value part => value * 60 + part) 0

/-- The magnitude of a whole number without sign and underscores. -/
def wholeMagnitude? (text : Text) : Option Int :=
  match text with
  | ['0'] => some 0
  | '0' :: 'b' :: digits => radix? 2 digits
  | '0' :: 'x' :: digits => radix? 16 digits
  | '0' :: _ => radix? 8 text
  | [] => none
  | _ =>
      if text.contains ':' then ((text.splitOn ':').mapM Numeral.integer?).map sixtieths
      else Numeral.integer? text

/-- The value of a whole number. -/
def whole? (spelling : Text) : Option Int :=
  let text := spelling.filter (· != '_')
  let magnitude := wholeMagnitude? (unsigned text)
  if text.head? = some '-' then magnitude.map (-·) else magnitude

/-- The value of doubles in base sixty, the last one counting ones. -/
def sixtiethsOfDoubles (parts : List Binary64) : Binary64 :=
  (parts.reverse.foldl (fun (sum, base) part => (sum.add (part.scale base), base * 60))
    (Binary64.zero false, 1)).1

/-- The magnitude of a decimal number in small letters without sign and underscores. -/
def decimalMagnitude? (text : Text) : Option Binary64 :=
  if text = ".inf" then some (.infinite false)
  else if text = ".nan" then some .nan
  else if text.isEmpty then none
  else if text.contains ':' then
    ((text.splitOn ':').mapM Numeral.float?).map sixtiethsOfDoubles
  else Numeral.float? text

/-- The value of a decimal number. -/
def decimal? (spelling : Text) : Option Binary64 :=
  let text := (spelling.filter (· != '_')).map Char.toLower
  let magnitude := decimalMagnitude? (unsigned text)
  if text.head? = some '-' then magnitude.map Binary64.neg else magnitude

end ApiForge.Yaml

import ApiForge.Text.Surrogate

/-!
# Punycode

A label of a host name in ASCII letters: first its ASCII characters, then, after
a hyphen, numbers in base thirty-six that say where the other characters go. The
thresholds between digits adapt to the size of the numbers.
-/

namespace ApiForge.Url.Punycode

def base : Nat := 36
def least : Nat := 1
def greatest : Nat := 26
def skew : Nat := 38
def damp : Nat := 700
def firstBias : Nat := 72
def firstCode : Nat := 128

/-- Divides by thirty-five until small; `fuel` bounds the divisions. -/
def adaptLoop : Nat → Nat → Nat → Nat
  | 0, power, delta => power + (base - least + 1) * delta / (delta + skew)
  | fuel + 1, power, delta =>
      if delta ≤ (base - least) * greatest / 2 then
        power + (base - least + 1) * delta / (delta + skew)
      else adaptLoop fuel (power + base) (delta / (base - least))

/-- The bias after a number. -/
def adapt (delta count : Nat) (isFirst : Bool) : Nat :=
  let delta := if isFirst then delta / damp else delta / 2
  adaptLoop 64 0 (delta + delta / count)

/-- The threshold of a digit at a power. -/
def threshold (power bias : Nat) : Nat :=
  if power ≤ bias + least then least
  else if bias + greatest ≤ power then greatest
  else power - bias

def digitChar (digit : Nat) : Char :=
  if digit < 26 then Char.ofNat (digit + 97) else Char.ofNat (digit + 22)

def digitValue? (letter : Char) : Option Nat :=
  if letter.isLower then some (letter.toNat - 97)
  else if letter.isUpper then some (letter.toNat - 65)
  else if letter.isDigit then some (letter.toNat - 22)
  else none

/-- The digits of a number; `fuel` bounds them. -/
def spell (bias : Nat) : Nat → Nat → Nat → Text
  | 0, _, _ => []
  | fuel + 1, power, number =>
      let limit := threshold power bias
      if number < limit then [digitChar number]
      else
        digitChar (limit + (number - limit) % (base - limit)) ::
          spell bias fuel (power + base) ((number - limit) / (base - limit))

/-- The state of the encoder: the code points below `code` are placed. -/
structure Progress where
  code : Nat
  delta : Nat
  bias : Nat
  placed : Nat
  written : Text

/-- Passes over the characters once and places those equal to the code. -/
def placeAll (first : Nat) (progress : Progress) (codes : List Nat) : Progress :=
  codes.foldl (fun state code =>
    if code < state.code then { state with delta := state.delta + 1 }
    else if code = state.code then
      { state with
        delta := 0
        bias := adapt state.delta (state.placed + 1) (state.placed == first)
        placed := state.placed + 1
        written := state.written ++ spell state.bias 64 base state.delta }
    else state) progress

/-- Places the codes from the lowest up; `fuel` bounds the different codes. -/
def place (first : Nat) (codes : List Nat) : Nat → Progress → Progress
  | 0, progress => progress
  | fuel + 1, progress =>
      match (codes.filter (progress.code ≤ ·)).min? with
      | none => progress
      | some next =>
          let delta := progress.delta + (next - progress.code) * (progress.placed + 1)
          let after := placeAll first { progress with code := next, delta } codes
          place first codes fuel { after with code := next + 1, delta := after.delta + 1 }

/-- The ASCII form of a label. -/
def encode (label : Text) : Text :=
  let codes := label.map Char.toNat
  let plain := label.filter (·.toNat < firstCode)
  let start : Progress :=
    ⟨firstCode, 0, firstBias, plain.length, if plain.isEmpty then [] else plain ++ ['-']⟩
  (place plain.length codes (codes.length + 1) start).written

/-- The number at the start of a text, and what follows it. -/
def number? (bias power weight total : Nat) : Text → Option (Nat × Text)
  | [] => none
  | letter :: rest =>
      match digitValue? letter with
      | none => none
      | some digit =>
          let limit := threshold power bias
          let total := total + digit * weight
          if digit < limit then some (total, rest)
          else number? bias (power + base) (weight * (base - limit)) total rest

/-- Puts the characters that the numbers describe among those placed; `fuel` bounds them. -/
def insertAll (isFirst : Bool) (code position bias : Nat) (placed : Text) :
    Nat → Text → Option Text
  | _, [] => some placed
  | 0, _ => none
  | fuel + 1, text =>
      match number? bias base 1 0 text with
      | none => none
      | some (delta, rest) =>
          let total := position + delta
          let count := placed.length + 1
          let code := code + total / count
          let position := total % count
          match charOfCodePoint? code with
          | none => none
          | some letter =>
              let placed := placed.take position ++ letter :: placed.drop position
              insertAll false code (position + 1) (adapt delta count isFirst) placed fuel rest

/-- The label of an ASCII form. -/
def decode? (text : Text) : Option Text :=
  let reversed := text.reverse
  let digits := (reversed.takeWhile (· != '-')).reverse
  let plain := ((reversed.dropWhile (· != '-')).drop 1).reverse
  insertAll true firstCode 0 firstBias plain (digits.length + 1) digits

end ApiForge.Url.Punycode

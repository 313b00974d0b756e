import ApiForge.Text.Basic

/-!
# Bytes in base sixty-four

Four digits of six bits stand for three bytes. Characters that are no digits do
not count. A group of two or three digits is filled up by equals signs, and
what follows a filled group does not count either.
-/

namespace ApiForge.Yaml

def sixBits? (letter : Char) : Option Nat :=
  if letter.isUpper then some (letter.toNat - 65)
  else if letter.isLower then some (letter.toNat - 71)
  else if letter.isDigit then some (letter.toNat + 4)
  else if letter = '+' then some 62
  else if letter = '/' then some 63
  else none

/-- The bytes of the digits; `digits` and `bits` are the number and the unused bits of the current
group, `pads` the equals signs since the last digit. -/
def base64From (digits bits pads : Nat) : Text → Option (List UInt8)
  | [] => if digits = 0 then some [] else none
  | letter :: rest =>
      if letter = '=' then
        if 2 ≤ digits then
          if 4 ≤ digits + pads + 1 then some [] else base64From digits bits (pads + 1) rest
        else base64From digits bits pads rest
      else
        match sixBits? letter with
        | none => base64From digits bits pads rest
        | some value =>
            if digits = 0 then base64From 1 value 0 rest
            else
              let joined := bits * 64 + value
              let unit := Nat.pow 2 (6 - 2 * digits)
              (base64From ((digits + 1) % 4) (joined % unit) 0 rest).map
                (UInt8.ofNat (joined / unit) :: ·)

/-- The bytes of an ASCII text. -/
def base64? (text : Text) : Option (List UInt8) :=
  if text.any fun letter => 128 ≤ letter.toNat then none else base64From 0 0 0 text

end ApiForge.Yaml

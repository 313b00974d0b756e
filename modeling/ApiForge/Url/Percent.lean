import ApiForge.Decimal.Numeral
import ApiForge.Text.Utf8

/-!
# Percent encoding

A character that a part of a URL cannot hold is written as its bytes, each a
percent sign and two hexadecimal digits. What is written like that already
stays.
-/

namespace ApiForge.Url

/-- Letters, digits and the four marks that every part may hold. -/
def isUnreserved (letter : Char) : Bool :=
  letter.isAlphanum || letter == '-' || letter == '.' || letter == '_' || letter == '~'

/-- The encoded form of one character. -/
def percentForm (letter : Char) : Text :=
  (Utf8.encodeChar letter).flatMap fun byte =>
    '%' :: (Text.hex 2 byte.toNat).toUpper

def isHexDigit (letter : Char) : Bool :=
  (Numeral.digitIn? 16 letter).isSome

/-- The text with the characters encoded that are neither unreserved nor safe. -/
def percentEncode (isSafe : Char → Bool) : Text → Text
  | '%' :: high :: low :: rest =>
      if isHexDigit high && isHexDigit low then
        '%' :: high :: low :: percentEncode isSafe rest
      else
        (if isSafe '%' then ['%'] else percentForm '%') ++ percentEncode isSafe (high :: low :: rest)
  | letter :: rest =>
      (if isUnreserved letter || isSafe letter then [letter] else percentForm letter) ++
        percentEncode isSafe rest
  | [] => []

/-- Visible ASCII characters other than these. -/
def isVisibleExcept (excluded : List Char) (letter : Char) : Bool :=
  0x20 ≤ letter.toNat && letter.toNat < 0x7f && !excluded.contains letter

def isFragmentSafe : Char → Bool :=
  isVisibleExcept [' ', '"', '<', '>', '\x60']

def isQuerySafe : Char → Bool :=
  isVisibleExcept [' ', '"', '#', '<', '>']

def isPathSafe : Char → Bool :=
  isVisibleExcept [' ', '"', '#', '<', '>', '?', '\x60', '\x7b', '\x7d']

def isUserSafe : Char → Bool :=
  isVisibleExcept [' ', '"', '#', '<', '>', '?', '\x60', '\x7b', '\x7d', '/', ';', '=', '@', '[',
    '\\', ']', '^', '|']

def isHostSafe (letter : Char) : Bool :=
  "!$&'()*+,;=\"\x60\x7b\x7d%|\\".toList.contains letter

end ApiForge.Url

import ApiForge.Text.Basic

/-!
# JSON faults

Why a text is not a JSON document, and where reading stopped.
-/

namespace ApiForge.Json

inductive Cause where
  | byteOrderMark
  | expectedValue
  | expectedName
  | expectedColon
  | expectedComma
  | extraData
  | unterminatedString
  | controlCharacter
  | badEscape
  | badUnicodeEscape
  | numeralTooLong
  deriving DecidableEq, Repr

def Cause.message : Cause → Text
  | .byteOrderMark => "Unexpected UTF-8 BOM (decode using utf-8-sig)"
  | .expectedValue => "Expecting value"
  | .expectedName => "Expecting property name enclosed in double quotes"
  | .expectedColon => "Expecting ':' delimiter"
  | .expectedComma => "Expecting ',' delimiter"
  | .extraData => "Extra data"
  | .unterminatedString => "Unterminated string starting at"
  | .controlCharacter => "Invalid control character at"
  | .badEscape => "Invalid \\escape"
  | .badUnicodeEscape => "Invalid \\uXXXX escape"
  | .numeralTooLong => "Numeral with too many digits"

/-- A fault at a character offset, with the line and column of that character from one on. -/
structure Fault where
  cause : Cause
  line : Nat
  column : Nat
  offset : Nat
  deriving DecidableEq, Repr

namespace Fault

/-- The fault at an offset of a text, whose lines end at line feeds. -/
def ofOffset (cause : Cause) (text : Text) (offset : Nat) : Fault :=
  let before := text.take offset
  { cause
    line := before.count '\n' + 1
    column := (before.reverse.takeWhile (· != '\n')).length + 1
    offset }

def message (fault : Fault) : Text :=
  fault.cause.message ++ ": line " ++ Text.ofNat fault.line ++ " column " ++
    Text.ofNat fault.column ++ " (char " ++ Text.ofNat fault.offset ++ ")"

end Fault

end ApiForge.Json

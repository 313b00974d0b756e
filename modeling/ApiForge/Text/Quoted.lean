import ApiForge.Text.Printable
import ApiForge.Text.Surrogate

/-!
# Quoted texts

A text in apostrophes, or in double quotes if it holds an apostrophe and no
double quote. Characters that cannot be seen are spelled by their number.
-/

namespace ApiForge

namespace Text

/-- The spelling of one character between quotes of a kind. -/
def displayChar (quotation letter : Char) : Text :=
  let number := codePoint letter
  if letter = quotation ∨ letter = '\\' then ['\\', letter]
  else if letter = '\n' then "\\n"
  else if letter = '\r' then "\\r"
  else if letter = '\t' then "\\t"
  else if isPrintable letter then [letter]
  else if number < 0x100 then "\\x" ++ hex 2 number
  else if number < 0x10000 then "\\u" ++ hex 4 number
  else "\\U" ++ hex 8 number

/-- The quotation mark that a text is displayed in. -/
def quotation (text : Text) : Char :=
  if text.contains '\'' && !text.contains '"' then '"' else '\''

/-- The text in quotation marks. -/
def quoted (text : Text) : Text :=
  let mark := quotation text
  mark :: text.flatMap (displayChar mark) ++ [mark]

end Text

end ApiForge

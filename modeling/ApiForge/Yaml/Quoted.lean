import ApiForge.Decimal.Numeral
import ApiForge.Yaml.Plain

/-!
# Quoted scalars

Between single quotes only a doubled quote is special. Between double quotes a
backslash starts an escape. A line break counts as in a plain scalar, and blanks
around it do not count.
-/

namespace ApiForge.Yaml

/-- The character of a one-letter escape. -/
def escaped? : Char → Option Char
  | '0' => some '\x00'
  | 'a' => some '\x07'
  | 'b' => some '\x08'
  | 't' => some '\t'
  | '\t' => some '\t'
  | 'n' => some '\n'
  | 'v' => some '\x0b'
  | 'f' => some '\x0c'
  | 'r' => some '\r'
  | 'e' => some '\x1b'
  | ' ' => some ' '
  | '"' => some '"'
  | '\\' => some '\\'
  | '/' => some '/'
  | 'N' => some '\x85'
  | '_' => some '\xa0'
  | 'L' => some '\u2028'
  | 'P' => some '\u2029'
  | _ => none

/-- The number of digits of a numbered escape. -/
def escapeDigits? : Char → Option Nat
  | 'x' => some 2
  | 'u' => some 4
  | 'U' => some 8
  | _ => none

/-- The character of a numbered escape with this many digits. -/
def numbered (count : Nat) (cursor : Cursor) : Except Stop (Text × Cursor) :=
  let digits := cursor.rest.take count
  match Numeral.natural? 16 digits with
  | some number =>
      if digits.length < count then refuse .badEscape
      else
        match charOfCodePoint? number with
        | some letter => .ok ([letter], cursor.skip count)
        | none => .error .unforeseen
  | none => refuse .badEscape

/-- The breaks at the start of lines inside quotes; blanks between them do not count. `fuel` bounds
the breaks. -/
def quotedBreaks : Nat → Cursor → Except Stop (List Text × Cursor)
  | 0, cursor => .ok ([], cursor)
  | fuel + 1, cursor =>
      if cursor.seesDocumentBound then refuse .unclosedQuote
      else
        let after := cursor.skipWhile fun letter => letter == ' ' || letter == '\t'
        match after.lineBreak with
        | ([], _) => .ok ([], after)
        | (lineBreak, after) => do
            let (breaks, after) ← quotedBreaks fuel after
            pure (lineBreak :: breaks, after)

/-- An escape between double quotes, from its backslash on. -/
def doubleEscape (cursor : Cursor) : Except Stop (Text × Cursor) :=
  let after := cursor.next
  match after.peek with
  | none => refuse .badEscape
  | some letter =>
      match escaped? letter, escapeDigits? letter with
      | some meant, _ => .ok ([meant], after.next)
      | none, some count => numbered count after.next
      | none, none =>
          if isBreak letter then do
            let after := after.lineBreak.2
            let (breaks, after) ← quotedBreaks (after.rest.length + 1) after
            pure (breaks.flatten, after)
          else refuse .badEscape

/-- Blanks between words inside quotes: as they are, or folded if a line ends in them. -/
def quotedGap (cursor : Cursor) : Except Stop (Text × Cursor) := do
  let (blanks, after) := cursor.takeWhile fun letter => letter == ' ' || letter == '\t'
  if after.rest.isEmpty then refuse .unclosedQuote
  else
    match after.lineBreak with
    | ([], _) => pure (blanks, after)
    | (lineBreak, after) =>
        let (breaks, after) ← quotedBreaks (after.rest.length + 1) after
        pure (foldedBreaks lineBreak breaks, after)

/-- The text up to the closing quote. `fuel` bounds the pieces. -/
def quotedText (double : Bool) : Nat → Cursor → Except Stop (Text × Cursor)
  | 0, _ => refuse .unclosedQuote
  | fuel + 1, cursor =>
      match cursor.rest with
      | [] => refuse .unclosedQuote
      | '\'' :: '\'' :: _ =>
          if double then do
            let (text, after) ← quotedText double fuel cursor.next
            pure ('\'' :: text, after)
          else do
            let (text, after) ← quotedText double fuel (cursor.skip 2)
            pure ('\'' :: text, after)
      | letter :: _ =>
          if letter == (if double then '"' else '\'') then .ok ([], cursor.next)
          else if double && letter == '\\' then do
            let (piece, after) ← doubleEscape cursor
            let (text, after) ← quotedText double fuel after
            pure (piece ++ text, after)
          else if isWideGap (some letter) then do
            let (piece, after) ← quotedGap cursor
            let (text, after) ← quotedText double fuel after
            pure (piece ++ text, after)
          else do
            let (text, after) ← quotedText double fuel cursor.next
            pure (letter :: text, after)

/-- The text of a quoted scalar at its opening quote. -/
def quoted (cursor : Cursor) : Except Stop (Text × Cursor) :=
  quotedText (cursor.sees '"') (cursor.rest.length + 1) cursor.next

end ApiForge.Yaml

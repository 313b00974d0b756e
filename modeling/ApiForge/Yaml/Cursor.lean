import ApiForge.Text.Surrogate
import ApiForge.Yaml.Fault

/-!
# Cursors

A place in a text with the characters after it, their line and their column.
Lines end at line feeds, carriage returns, next-line controls and the two
Unicode separators. A byte order mark takes no column.
-/

namespace ApiForge.Yaml

/-- One of these ends a line. -/
def isBreak (letter : Char) : Bool :=
  letter == '\n' || letter == '\r' || letter == '\x85' || letter == '\u2028' || letter == '\u2029'

/-- The end of the text, a line break or a space. -/
def isGap : Option Char → Bool
  | none => true
  | some letter => letter == ' ' || isBreak letter

/-- The end of the text, a line break, a space or a tab. -/
def isWideGap (letter : Option Char) : Bool :=
  isGap letter || letter == some '\t'

/-- The end of the text or of a line. -/
def isLineEnd : Option Char → Bool
  | none => true
  | some letter => isBreak letter

/-- Letters, digits, hyphens and underscores. -/
def isNameChar (letter : Char) : Bool :=
  letter.isAlphanum || letter == '-' || letter == '_'

/-- A document may hold this character. -/
def isAllowed (letter : Char) : Bool :=
  let number := letter.toNat
  number == 0x09 || number == 0x0a || number == 0x0d || (0x20 ≤ number && number ≤ 0x7e) ||
    number == 0x85 || (0xa0 ≤ number && number != 0xfffe && number != 0xffff &&
      !isLoneSurrogate letter)

structure Cursor where
  rest : Text
  index : Nat
  line : Nat
  column : Nat
  deriving DecidableEq, Repr

namespace Cursor

/-- The start of a text. -/
def ofText (text : Text) : Cursor :=
  ⟨text, 0, 0, 0⟩

def peek (cursor : Cursor) : Option Char :=
  cursor.rest.head?

/-- The character some places ahead. -/
def peekAt (cursor : Cursor) (distance : Nat) : Option Char :=
  cursor.rest[distance]?

def sees (cursor : Cursor) (letter : Char) : Bool :=
  cursor.peek == some letter

/-- The place after the next character. A carriage return before a line feed ends no line. -/
def next (cursor : Cursor) : Cursor :=
  match cursor.rest with
  | [] => cursor
  | letter :: rest =>
      if isBreak letter && !(letter == '\r' && rest.head? == some '\n') then
        ⟨rest, cursor.index + 1, cursor.line + 1, 0⟩
      else if letter == '\uFEFF' then ⟨rest, cursor.index + 1, cursor.line, cursor.column⟩
      else ⟨rest, cursor.index + 1, cursor.line, cursor.column + 1⟩

/-- The place some characters on. -/
def skip : Nat → Cursor → Cursor
  | 0, cursor => cursor
  | count + 1, cursor => skip count cursor.next

/-- The characters up to the first that fails a test, and the place of that one. -/
def takeWhile (test : Char → Bool) (cursor : Cursor) : Text × Cursor :=
  let taken := cursor.rest.takeWhile test
  (taken, cursor.skip taken.length)

def skipWhile (test : Char → Bool) (cursor : Cursor) : Cursor :=
  (cursor.takeWhile test).2

def skipSpaces (cursor : Cursor) : Cursor :=
  cursor.skipWhile (· == ' ')

/-- Passes over spaces, but not beyond a column. -/
def skipSpacesTo (column : Nat) (cursor : Cursor) : Cursor :=
  let spaces := cursor.rest.takeWhile (· == ' ')
  cursor.skip (min spaces.length (column - cursor.column))

/-- Passes over a comment up to the end of its line. -/
def skipComment (cursor : Cursor) : Cursor :=
  if cursor.sees '#' then cursor.skipWhile (!isBreak ·) else cursor

/-- The line break here as it counts in a text: the separators as they are, the others as a line
feed. Nothing if there is none. -/
def lineBreak (cursor : Cursor) : Text × Cursor :=
  match cursor.rest with
  | '\r' :: '\n' :: _ => (['\n'], cursor.skip 2)
  | letter :: _ =>
      if letter == '\u2028' || letter == '\u2029' then ([letter], cursor.next)
      else if isBreak letter then (['\n'], cursor.next)
      else ([], cursor)
  | [] => ([], cursor)

/-- Three hyphens or three dots with a gap after them. -/
def seesMarker (cursor : Cursor) (letter : Char) : Bool :=
  cursor.rest.take 3 == [letter, letter, letter] && isWideGap (cursor.peekAt 3)

def seesDocumentBound (cursor : Cursor) : Bool :=
  cursor.seesMarker '-' || cursor.seesMarker '.'

end Cursor

end ApiForge.Yaml

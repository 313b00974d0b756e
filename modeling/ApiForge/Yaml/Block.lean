import ApiForge.Yaml.Cursor

/-!
# Block scalars

A literal scalar keeps its lines, a folded one joins them by spaces. The header
may say what happens to the breaks at the end and how far the text is indented.
-/

namespace ApiForge.Yaml

/-- What becomes of the line breaks at the end of a block scalar. -/
inductive Chomping where
  | strip
  | clip
  | keep
  deriving DecidableEq, Repr

/-- What a block scalar's header says; `increment` is counted from the block around it. -/
structure BlockHeader where
  folded : Bool
  chomping : Chomping
  increment : Option Nat
  deriving DecidableEq, Repr

def chomping? : Option Char → Option Chomping
  | some '+' => some .keep
  | some '-' => some .strip
  | _ => none

/-- A digit from one to nine; zero is no increment. -/
def increment? (cursor : Cursor) : Except Stop (Option Nat × Cursor) :=
  match cursor.peek with
  | some letter =>
      if letter == '0' then refuse .badBlockHeader
      else if letter.isDigit then .ok (some (letter.toNat - 48), cursor.next)
      else .ok (none, cursor)
  | none => .ok (none, cursor)

/-- Chomping and increment in either order. -/
def blockIndicators (cursor : Cursor) : Except Stop (Chomping × Option Nat × Cursor) := do
  match chomping? cursor.peek with
  | some chomping =>
      let (increment, after) ← increment? cursor.next
      pure (chomping, increment, after)
  | none =>
      let (increment, after) ← increment? cursor
      match increment, chomping? after.peek with
      | some _, some chomping => pure (chomping, increment, after.next)
      | _, _ => pure (.clip, increment, after)

/-- The header up to the end of its line, from its bar or angle bracket on. -/
def blockHeader (cursor : Cursor) : Except Stop (BlockHeader × Cursor) := do
  let (chomping, increment, after) ← blockIndicators cursor.next
  if !isGap after.peek then refuse .badBlockHeader
  else
    let after := after.skipSpaces.skipComment
    if isLineEnd after.peek then
      pure (⟨cursor.sees '>', chomping, increment⟩, after.lineBreak.2)
    else refuse .badBlockHeader

/-- The breaks before the first line that is not blank, and the greatest column reached in them.
`fuel` bounds the characters passed over. -/
def leadingBreaks (greatest : Nat) : Nat → Cursor → List Text × Nat × Cursor
  | 0, cursor => ([], greatest, cursor)
  | fuel + 1, cursor =>
      if cursor.sees ' ' then leadingBreaks (max greatest cursor.next.column) fuel cursor.next
      else
        match cursor.lineBreak with
        | ([], _) => ([], greatest, cursor)
        | (lineBreak, after) =>
            let (breaks, greatest, after) := leadingBreaks greatest fuel after
            (lineBreak :: breaks, greatest, after)

/-- The breaks of blank lines, which may be indented up to a column. `fuel` bounds the breaks. -/
def blankLines (indent : Nat) : Nat → Cursor → List Text × Cursor
  | 0, cursor => ([], cursor)
  | fuel + 1, cursor =>
      let after := cursor.skipSpacesTo indent
      match after.lineBreak with
      | ([], _) => ([], after)
      | (lineBreak, after) =>
          let (breaks, after) := blankLines indent fuel after
          (lineBreak :: breaks, after)

def isBlankChar (letter : Option Char) : Bool :=
  letter == some ' ' || letter == some '\t'

/-- The lines of a block scalar at a column that is its indentation, and the breaks at its end: the
last line's own break and those of blank lines. `breaks` stand before this line; `fuel` bounds the
lines. -/
def blockLines (folded : Bool) (indent : Nat) (breaks : List Text) :
    Nat → Cursor → Text × Text × List Text × Cursor
  | 0, cursor => ([], [], breaks, cursor)
  | fuel + 1, cursor =>
      let flush := !isBlankChar cursor.peek
      let (line, after) := cursor.takeWhile (!isBreak ·)
      let (lineBreak, after) := after.lineBreak
      let (blanks, after) := blankLines indent (after.rest.length + 1) after
      let start := breaks.flatten ++ line
      if after.column = indent ∧ !after.rest.isEmpty then
        let joint :=
          if folded && lineBreak == ['\n'] && flush && !isBlankChar after.peek then
            if blanks.isEmpty then [' '] else []
          else lineBreak
        let (text, lastBreak, blanks, after) := blockLines folded indent blanks fuel after
        (start ++ joint ++ text, lastBreak, blanks, after)
      else (start, lineBreak, blanks, after)

/-- The text of a block scalar inside a block whose content starts at column `least` or later. -/
def blockText (least : Nat) (cursor : Cursor) : Except Stop (Text × Cursor) := do
  let (header, after) ← blockHeader cursor
  let fuel := after.rest.length + 1
  let (breaks, indent, after) := match header.increment with
    | some increment =>
        let indent := least + increment - 1
        let (breaks, after) := blankLines indent fuel after
        (breaks, indent, after)
    | none =>
        let (breaks, greatest, after) := leadingBreaks 0 fuel after
        (breaks, max least greatest, after)
  let (text, lastBreak, breaks, after) :=
    if after.column = indent ∧ !after.rest.isEmpty then
      blockLines header.folded indent breaks fuel after
    else ([], [], breaks, after)
  pure (match header.chomping with
    | .strip => (text, after)
    | .clip => (text ++ lastBreak, after)
    | .keep => (text ++ lastBreak ++ breaks.flatten, after))

end ApiForge.Yaml

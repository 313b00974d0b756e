import ApiForge.Yaml.Cursor

/-!
# Plain scalars

A plain scalar has no quotes. It ends at a colon or comment that stands apart,
at the punctuation of a flow collection, or where its block ends. A line break
inside it counts as a space, further breaks count as themselves.
-/

namespace ApiForge.Yaml

/-- The punctuation of flow collections. -/
def isFlowMark (letter : Char) : Bool :=
  [',', '[', ']', '\x7b', '\x7d'].contains letter

/-- A plain scalar can start here. -/
def startsPlain (flow : Bool) (cursor : Cursor) : Bool :=
  match cursor.rest with
  | [] => false
  | letter :: rest =>
      (!isWideGap (some letter) &&
        !("-?:,[]#&*!|>'\"%@\x60".toList.contains letter || letter == '\x7b' || letter == '\x7d')) ||
      (!isWideGap rest.head? &&
        (letter == '-' || (!flow && (letter == '?' || letter == ':'))))

/-- The characters of a plain scalar before the next gap or end mark. -/
def plainWord (flow : Bool) : Text → Text
  | [] => []
  | letter :: rest =>
      let endsHere :=
        isWideGap (some letter) ||
        (letter == ':' && (isWideGap rest.head? || (flow && rest.head?.any isFlowMark))) ||
        (flow && (letter == '?' || isFlowMark letter))
      if endsHere then [] else letter :: plainWord flow rest

/-- The breaks after the first one, between which spaces do not count; nothing at the bound of a
document. `fuel` bounds the characters passed over. -/
def plainBreaks : Nat → Cursor → Option (List Text) × Cursor
  | 0, cursor => (some [], cursor)
  | fuel + 1, cursor =>
      if cursor.sees ' ' then plainBreaks fuel cursor.next
      else
        match cursor.lineBreak with
        | ([], _) => (some [], cursor)
        | (lineBreak, after) =>
            if after.seesDocumentBound then (none, after)
            else
              let (breaks, after) := plainBreaks fuel after
              (breaks.map (lineBreak :: ·), after)

/-- How a first line break and the breaks after it count inside a text. -/
def foldedBreaks (lineBreak : Text) (breaks : List Text) : Text :=
  (if lineBreak ≠ ['\n'] then lineBreak else if breaks.isEmpty then [' '] else []) ++
    breaks.flatten

/-- The gap after a word, as it counts if another word follows, and whether a line ended in it. -/
def plainGap (cursor : Cursor) : Option Text × Bool × Cursor :=
  let (spaces, after) := cursor.takeWhile (· == ' ')
  match after.lineBreak with
  | ([], _) => (if spaces.isEmpty then none else some spaces, false, after)
  | (lineBreak, after) =>
      if after.seesDocumentBound then (none, true, after)
      else
        match plainBreaks (after.rest.length + 1) after with
        | (none, after) => (none, true, after)
        | (some breaks, after) => (some (foldedBreaks lineBreak breaks), true, after)

/-- The text of a plain scalar whose block is indented by `indent`, and whether its last gap ended a
line. `gap` counts if a word follows; `fuel` bounds the words. -/
def plainText (flow : Bool) (indent : Nat) (gap : Text) (broken : Bool) :
    Nat → Cursor → Text × Bool × Cursor
  | 0, cursor => ([], broken, cursor)
  | fuel + 1, cursor =>
      if cursor.sees '#' then ([], broken, cursor)
      else
        match plainWord flow cursor.rest with
        | [] => ([], broken, cursor)
        | word =>
            let after := cursor.skip word.length
            match plainGap after with
            | (none, ended, after) => (gap ++ word, ended, after)
            | (some space, ended, after) =>
                if after.sees '#' || (!flow && after.column < indent) then
                  (gap ++ word, ended, after)
                else
                  let (text, ended, after) := plainText flow indent space ended fuel after
                  (gap ++ word ++ text, ended, after)

end ApiForge.Yaml

import ApiForge.Decimal.Numeral
import ApiForge.Text.Utf8
import ApiForge.Yaml.Cursor
import ApiForge.Yaml.Token

/-!
# Node properties and directives

Anchors, aliases and tags in front of a node, and the lines in front of a
document that begin with a percent sign.
-/

namespace ApiForge.Yaml

/-- The name of an anchor or alias, whose mark is already read. -/
def anchorName (cursor : Cursor) : Except Stop (Text × Cursor) :=
  let (name, after) := cursor.takeWhile isNameChar
  let mayFollow := isWideGap after.peek ||
    (after.peek.any fun letter => "?:,]\x7d%@\x60".toList.contains letter)
  if name.isEmpty || !mayFollow then refuse .badAnchor else .ok (name, after)

/-- A character of a tag that stands for itself. -/
def isTagChar (letter : Char) : Bool :=
  letter.isAlphanum || "-;/?:@&=+$,_.!~*'()[]".toList.contains letter

/-- The bytes of percent escapes. -/
def percentBytes : Text → Except Stop (List UInt8 × Nat)
  | '%' :: high :: low :: rest =>
      match Numeral.digitIn? 16 high, Numeral.digitIn? 16 low with
      | some one, some other =>
          match percentBytes rest with
          | .ok (bytes, count) => .ok (UInt8.ofNat (one * 16 + other) :: bytes, count + 3)
          | .error stop => .error stop
      | _, _ => refuse .badTag
  | '%' :: _ => refuse .badTag
  | _ => .ok ([], 0)

/-- The characters of a tag with its percent escapes undone; `fuel` bounds their number. -/
def tagCharacters : Nat → Cursor → Except Stop (Text × Cursor)
  | 0, cursor => .ok ([], cursor)
  | fuel + 1, cursor =>
      let (plain, after) := cursor.takeWhile isTagChar
      if after.sees '%' then do
        let (bytes, count) ← percentBytes after.rest
        match Utf8.decodeStrict? bytes with
        | none => refuse .badTag
        | some escaped =>
            let (rest, after) ← tagCharacters fuel (after.skip count)
            pure (plain ++ escaped ++ rest, after)
      else .ok (plain, after)

/-- A tag without its handle, which has at least one character. -/
def tagUri (cursor : Cursor) : Except Stop (Text × Cursor) := do
  if !(cursor.peek.any fun letter => isTagChar letter || letter == '%') then refuse .badTag
  else tagCharacters (cursor.rest.length + 1) cursor

/-- A handle: one exclamation mark, or a name between two. -/
def tagHandle (cursor : Cursor) : Except Stop (Text × Cursor) :=
  if !cursor.sees '!' then refuse .badTag
  else
    let (name, after) := cursor.next.takeWhile isNameChar
    if after.sees '!' then .ok ('!' :: name ++ ['!'], after.next)
    else if name.isEmpty && after.sees ' ' then .ok (['!'], after)
    else refuse .badTag

/-- The tag has a handle of its own: another exclamation mark comes before the next gap. -/
def hasHandle (after : Text) : Bool :=
  (after.takeWhile fun letter => !isGap (some letter)).contains '!'

/-- Handle and suffix of a tag at its exclamation mark. -/
def tagParts (cursor : Cursor) : Except Stop ((Option Text × Text) × Cursor) := do
  if cursor.peekAt 1 == some '<' then
    let (suffix, after) ← tagUri (cursor.skip 2)
    if after.sees '>' then pure ((none, suffix), after.next) else refuse .badTag
  else if isWideGap (cursor.peekAt 1) then pure ((none, ['!']), cursor.next)
  else if hasHandle cursor.next.rest then
    let (handle, after) ← tagHandle cursor
    let (suffix, after) ← tagUri after
    pure ((some handle, suffix), after)
  else
    let (suffix, after) ← tagUri cursor.next
    pure ((some ['!'], suffix), after)

/-- A tag, which a gap follows. -/
def tag (cursor : Cursor) : Except Stop (Token × Cursor) := do
  let ((handle, suffix), after) ← tagParts cursor
  if isGap after.peek then pure (.tag handle suffix, after) else refuse .badTag

/-- A number of a version. -/
def versionNumber (cursor : Cursor) : Except Stop (Nat × Cursor) :=
  let (digits, after) := cursor.takeWhile Char.isDigit
  match Numeral.natural? 10 digits with
  | some number =>
      if Numeral.greatestLength < digits.length then .error .unforeseen else .ok (number, after)
  | none => refuse .badDirective

def versionDirective (cursor : Cursor) : Except Stop (Directive × Cursor) := do
  let (major, after) ← versionNumber cursor.skipSpaces
  if !after.sees '.' then refuse .badDirective
  else
    let (minor, after) ← versionNumber after.next
    if isGap after.peek then pure (.version major minor, after) else refuse .badDirective

def tagDirective (cursor : Cursor) : Except Stop (Directive × Cursor) := do
  let (handle, after) ← tagHandle cursor.skipSpaces
  if !after.sees ' ' then refuse .badDirective
  else
    let (start, after) ← tagUri after.skipSpaces
    if isGap after.peek then pure (.tag handle start, after) else refuse .badDirective

/-- A directive up to the end of its line, from the percent sign on. -/
def directive (cursor : Cursor) : Except Stop (Directive × Cursor) := do
  let (name, after) := cursor.next.takeWhile isNameChar
  if name.isEmpty || !isGap after.peek then refuse .badDirective
  else
    let (directive, after) ←
      if name = "YAML" then versionDirective after
      else if name = "TAG" then tagDirective after
      else pure (.other, after.skipWhile (!isBreak ·))
    let after := after.skipSpaces.skipComment
    if isLineEnd after.peek then pure (directive, after.lineBreak.2) else refuse .badDirective

end ApiForge.Yaml

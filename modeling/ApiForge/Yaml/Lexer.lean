import ApiForge.Yaml.Block
import ApiForge.Yaml.Property
import ApiForge.Yaml.Quoted

/-!
# Lexing YAML

Tokens are read with an eye on indentation: a line that is indented further
opens a block collection and one that is indented less closes it. A scalar, tag
or collection becomes a key only when a colon follows, so the place where it
began is remembered while a colon may still come, which is on the same line and
within 1024 characters.
-/

namespace ApiForge.Yaml

/-- The start of something that may turn out to be a key: the number of tokens before it, and
whether the block would be broken if it is none. -/
structure PossibleKey where
  position : Nat
  required : Bool
  index : Nat
  line : Nat
  column : Nat
  deriving DecidableEq, Repr

/-- How far a key may be from its colon. -/
def longestKey : Nat := 1024

/-- The state between tokens. `indents` are the columns of the open blocks, innermost first, `keys`
the possible keys by flow depth; the tokens read so far are in `reversed`. -/
structure Lexer where
  cursor : Cursor
  depth : Nat
  indents : List Nat
  keyAllowed : Bool
  keys : List (Nat × PossibleKey)
  reversed : List Token
  count : Nat
  deriving Repr

namespace Lexer

/-- The state at the start of a text. -/
def ofText (text : Text) : Lexer :=
  ⟨.ofText text, 0, [], true, [], [], 0⟩

def inFlow (lexer : Lexer) : Bool :=
  lexer.depth != 0

def emit (token : Token) (lexer : Lexer) : Lexer :=
  { lexer with reversed := token :: lexer.reversed, count := lexer.count + 1 }

/-- Puts a token in front of those after the first `position` tokens. -/
def insertAt (position : Nat) (token : Token) (lexer : Lexer) : Lexer :=
  let later := lexer.count - position
  { lexer with
    reversed := lexer.reversed.take later ++ token :: lexer.reversed.drop later
    count := lexer.count + 1 }

/-- The column where the content of the innermost block starts at the earliest. -/
def contentColumn (lexer : Lexer) : Nat :=
  match lexer.indents with
  | [] => 0
  | column :: _ => column + 1

/-- Closes the blocks indented further than a column. -/
def closeBlocksBeyond (column : Nat) : List Nat → Lexer → Lexer
  | [], lexer => { lexer with indents := [] }
  | indent :: rest, lexer =>
      if column < indent then closeBlocksBeyond column rest (lexer.emit .blockEnd)
      else { lexer with indents := indent :: rest }

/-- Closes all blocks. -/
def closeBlocks (lexer : Lexer) : Lexer :=
  if lexer.inFlow then lexer
  else
    { lexer with
      reversed := List.replicate lexer.indents.length .blockEnd ++ lexer.reversed
      count := lexer.count + lexer.indents.length
      indents := [] }

/-- Opens a block at a column unless the innermost block has it already. -/
def openBlock (column position : Nat) (token : Token) (lexer : Lexer) : Lexer :=
  if lexer.contentColumn ≤ column then
    { lexer.insertAt position token with indents := column :: lexer.indents }
  else lexer

/-- Forgets the possible key of the innermost collection. -/
def dropKey (lexer : Lexer) : Except Stop Lexer :=
  match lexer.keys.find? (·.1 == lexer.depth) with
  | some (_, key) =>
      if key.required then refuse .missingColon
      else .ok { lexer with keys := lexer.keys.filter (·.1 != lexer.depth) }
  | none => .ok lexer

/-- Forgets the possible keys that are too far back. -/
def dropStaleKeys (lexer : Lexer) : Except Stop Lexer :=
  let isStale (entry : Nat × PossibleKey) : Bool :=
    entry.2.line != lexer.cursor.line || longestKey < lexer.cursor.index - entry.2.index
  if lexer.keys.any fun entry => isStale entry && entry.2.required then refuse .missingColon
  else .ok { lexer with keys := lexer.keys.filter (!isStale ·) }

/-- Remembers that a key may begin here. -/
def saveKey (lexer : Lexer) : Except Stop Lexer := do
  if lexer.keyAllowed then
    let required := !lexer.inFlow && lexer.indents.head? == some lexer.cursor.column
    let lexer ← lexer.dropKey
    let key : PossibleKey :=
      ⟨lexer.count, required, lexer.cursor.index, lexer.cursor.line, lexer.cursor.column⟩
    pure { lexer with keys := (lexer.depth, key) :: lexer.keys }
  else pure lexer

/-- Passes over blanks, comments and line ends. Outside flow collections a key may begin after a
line end. `fuel` bounds the lines. -/
def toNextToken : Nat → Lexer → Lexer
  | 0, lexer => lexer
  | fuel + 1, lexer =>
      let cursor := lexer.cursor.skipSpaces.skipComment
      match cursor.lineBreak with
      | ([], _) => { lexer with cursor }
      | (_, cursor) =>
          toNextToken fuel { lexer with cursor, keyAllowed := lexer.keyAllowed || !lexer.inFlow }

/-- Passes over some characters. -/
def pass (count : Nat) (lexer : Lexer) : Lexer :=
  { lexer with cursor := lexer.cursor.skip count }

def allowKey (allowed : Bool) (lexer : Lexer) : Lexer :=
  { lexer with keyAllowed := allowed }

/-- The end of the text closes everything. -/
def finish (lexer : Lexer) : Except Stop Lexer := do
  let lexer ← lexer.closeBlocks.dropKey
  pure ({ lexer with keys := [] }.allowKey false |>.emit .streamEnd)

def readDirective (lexer : Lexer) : Except Stop Lexer := do
  let lexer ← lexer.closeBlocks.dropKey
  let (directive, cursor) ← directive lexer.cursor
  pure ({ lexer with cursor }.allowKey false |>.emit (.directive directive))

/-- Three hyphens or dots at the start of a line. -/
def readBound (token : Token) (lexer : Lexer) : Except Stop Lexer := do
  let lexer ← lexer.closeBlocks.dropKey
  pure (lexer.allowKey false |>.pass 3 |>.emit token)

def openFlow (token : Token) (lexer : Lexer) : Except Stop Lexer := do
  let lexer ← lexer.saveKey
  pure ({ lexer with depth := lexer.depth + 1 }.allowKey true |>.pass 1 |>.emit token)

def closeFlow (token : Token) (lexer : Lexer) : Except Stop Lexer := do
  let lexer ← lexer.dropKey
  pure ({ lexer with depth := lexer.depth - 1 }.allowKey false |>.pass 1 |>.emit token)

def readFlowEntry (lexer : Lexer) : Except Stop Lexer := do
  let lexer ← (lexer.allowKey true).dropKey
  pure (lexer.pass 1 |>.emit .flowEntry)

def readBlockEntry (lexer : Lexer) : Except Stop Lexer := do
  if !lexer.inFlow && !lexer.keyAllowed then refuse .misplacedKey
  else
    let lexer := if lexer.inFlow then lexer
      else lexer.openBlock lexer.cursor.column lexer.count .blockSequenceStart
    let lexer ← (lexer.allowKey true).dropKey
    pure (lexer.pass 1 |>.emit .blockEntry)

def readKey (lexer : Lexer) : Except Stop Lexer := do
  if !lexer.inFlow && !lexer.keyAllowed then refuse .misplacedKey
  else
    let lexer := if lexer.inFlow then lexer
      else lexer.openBlock lexer.cursor.column lexer.count .blockMappingStart
    let lexer ← (lexer.allowKey (!lexer.inFlow)).dropKey
    pure (lexer.pass 1 |>.emit .key)

/-- A colon: what began at the possible key is a key, or else the key is empty. -/
def readValue (lexer : Lexer) : Except Stop Lexer := do
  match lexer.keys.find? (·.1 == lexer.depth) with
  | some (_, key) =>
      let lexer := { lexer with keys := lexer.keys.filter (·.1 != lexer.depth) }
      let lexer := lexer.insertAt key.position .key
      let lexer := if lexer.inFlow then lexer
        else lexer.openBlock key.column key.position .blockMappingStart
      pure (lexer.allowKey false |>.pass 1 |>.emit .value)
  | none =>
      if !lexer.inFlow && !lexer.keyAllowed then refuse .misplacedKey
      else
        let lexer := if lexer.inFlow then lexer
          else lexer.openBlock lexer.cursor.column lexer.count .blockMappingStart
        let lexer ← (lexer.allowKey (!lexer.inFlow)).dropKey
        pure (lexer.pass 1 |>.emit .value)

def readAnchor (token : Text → Token) (lexer : Lexer) : Except Stop Lexer := do
  let lexer ← lexer.saveKey
  let (name, cursor) ← anchorName lexer.cursor.next
  pure ({ lexer with cursor }.allowKey false |>.emit (token name))

def readTag (lexer : Lexer) : Except Stop Lexer := do
  let lexer ← lexer.saveKey
  let (token, cursor) ← tag lexer.cursor
  pure ({ lexer with cursor }.allowKey false |>.emit token)

def readBlock (lexer : Lexer) : Except Stop Lexer := do
  let lexer ← (lexer.allowKey true).dropKey
  let (text, cursor) ← blockText (max 1 lexer.contentColumn) lexer.cursor
  pure ({ lexer with cursor }.emit (.scalar text false))

def readQuoted (lexer : Lexer) : Except Stop Lexer := do
  let lexer ← lexer.saveKey
  let (text, cursor) ← quoted lexer.cursor
  pure ({ lexer with cursor }.allowKey false |>.emit (.scalar text false))

def readPlain (lexer : Lexer) : Except Stop Lexer := do
  let lexer ← lexer.saveKey
  let (text, broken, cursor) :=
    plainText lexer.inFlow lexer.contentColumn [] false (lexer.cursor.rest.length + 1) lexer.cursor
  pure ({ lexer with cursor }.allowKey broken |>.emit (.scalar text true))

/-- A token at a character that is neither blank nor the end of the text. -/
def readToken (letter : Char) (lexer : Lexer) : Except Stop Lexer :=
  let atLineStart := lexer.cursor.column == 0
  let apart := isWideGap (lexer.cursor.peekAt 1)
  if letter == '%' && atLineStart then lexer.readDirective
  else if atLineStart && lexer.cursor.seesMarker '-' then lexer.readBound .documentStart
  else if atLineStart && lexer.cursor.seesMarker '.' then lexer.readBound .documentEnd
  else if letter == '[' then lexer.openFlow .flowSequenceStart
  else if letter == '\x7b' then lexer.openFlow .flowMappingStart
  else if letter == ']' then lexer.closeFlow .flowSequenceEnd
  else if letter == '\x7d' then lexer.closeFlow .flowMappingEnd
  else if letter == ',' then lexer.readFlowEntry
  else if letter == '-' && apart then lexer.readBlockEntry
  else if letter == '?' && (lexer.inFlow || apart) then lexer.readKey
  else if letter == ':' && (lexer.inFlow || apart) then lexer.readValue
  else if letter == '*' then lexer.readAnchor .alias
  else if letter == '&' then lexer.readAnchor .anchor
  else if letter == '!' then lexer.readTag
  else if (letter == '|' || letter == '>') && !lexer.inFlow then lexer.readBlock
  else if letter == '\'' || letter == '"' then lexer.readQuoted
  else if startsPlain lexer.inFlow lexer.cursor then lexer.readPlain
  else refuse .badToken

/-- Closes the blocks that a token at this column is outside of. -/
def unwind (lexer : Lexer) : Lexer :=
  if lexer.inFlow then lexer
  else closeBlocksBeyond lexer.cursor.column lexer.indents lexer

/-- The next token with those that its indentation brings, and whether it is the last one. -/
def step (lexer : Lexer) : Except Stop (Bool × Lexer) := do
  let lexer := toNextToken (lexer.cursor.rest.length + 1) lexer
  let lexer ← lexer.dropStaleKeys
  let lexer := lexer.unwind
  match lexer.cursor.peek with
  | none =>
      let lexer ← lexer.finish
      pure (true, lexer)
  | some letter =>
      let lexer ← lexer.readToken letter
      pure (false, lexer)

/-- All tokens, and what ended the text before its end. Every token takes a character, so `fuel`
need not exceed their number. -/
def run : Nat → Lexer → List Token × Option Stop
  | 0, lexer => (lexer.reversed.reverse, none)
  | fuel + 1, lexer =>
      match lexer.step with
      | .error stop => (lexer.reversed.reverse, some stop)
      | .ok (true, lexer) => (lexer.reversed.reverse, none)
      | .ok (false, lexer) => run fuel lexer

end Lexer

/-- The text without a byte order mark. -/
def dropMark (cursor : Cursor) : Cursor :=
  if cursor.sees '\uFEFF' then cursor.next else cursor

/-- The tokens of a text whose characters are all allowed. -/
def tokens (text : Text) : List Token × Option Stop :=
  let start := Lexer.ofText text
  Lexer.run (text.length + 2) { start with cursor := dropMark start.cursor }

end ApiForge.Yaml

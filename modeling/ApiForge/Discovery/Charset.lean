import ApiForge.Discovery.ByteRow
import ApiForge.Text.Blank
import ApiForge.Text.Utf8

/-!
# Character sets

The characters of a body are told by the character set that its content type
names; without one, or with an unknown one, they are UTF-8. Bytes that stand for
no character count as the replacement character.
-/

namespace ApiForge.Discovery

inductive Charset where
  | utf8
  | markedUtf8
  | ascii
  | latin1
  | singleByte (row : ByteRow)
  | utf16
  | utf16Little
  | utf16Big
  deriving DecidableEq, Repr

/-- The parameters of a content type, between semicolons outside quotes. -/
def splitParameters (quoted : Bool) : Text → List Text
  | [] => [[]]
  | letter :: rest =>
      if letter = ';' ∧ !quoted then [] :: splitParameters quoted rest
      else
        let quoted := if letter = '"' then !quoted else quoted
        match splitParameters quoted rest with
        | [] => [[letter]]
        | piece :: pieces => (letter :: piece) :: pieces

/-- A text without the double quotes or angle brackets around it. -/
def unquoted (text : Text) : Text :=
  if 2 ≤ text.length && ((text.startsWith ['"'] && text.endsWith ['"']) ||
      (text.startsWith ['<'] && text.endsWith ['>'])) then
    (text.drop 1).dropLast
  else text

/-- The name of the character set in a content type, in small letters. -/
def charsetName? (contentType : Text) : Option Text :=
  (splitParameters false contentType).tail.findSome? fun parameter =>
    match parameter.cutAt '=' with
    | (name, some value) =>
        if (name.strip.map Char.toLower) = "charset" then
          some ((unquoted value.strip).map Char.toLower)
        else none
    | _ => none

/-- The name with one underscore for each stretch of what is no letter, digit or dot. -/
def plainName (name : Text) : Text :=
  ['_'].intercalate
    ((name.splitBy fun before after => isNamePart before == isNamePart after).filter
      (·.all isNamePart))
where
  isNamePart (letter : Char) : Bool := letter.isAlphanum || letter == '.'

def ofName? (name : Text) : Option Charset :=
  let known : List (Charset × List String) := [
    (.utf8, ["utf_8", "utf8", "u8", "utf", "utf8_ucs2", "utf8_ucs4", "cp65001"]),
    (.markedUtf8, ["utf_8_sig"]),
    (.ascii, ["ascii", "us_ascii", "646", "ansi_x3.4_1968", "ansi_x3_4_1968", "ansi_x3.4_1986",
      "cp367", "csascii", "ibm367", "iso646_us", "iso_646.irv_1991", "iso_ir_6", "us"]),
    (.latin1, ["latin_1", "latin1", "iso_8859_1", "iso8859_1", "8859", "cp819", "csisolatin1",
      "ibm819", "iso8859", "iso_8859_1_1987", "iso_ir_100", "l1", "latin"]),
    (.utf16, ["utf_16", "utf16", "u16"]),
    (.utf16Little, ["utf_16_le", "utf_16le", "unicodelittleunmarked"]),
    (.utf16Big, ["utf_16_be", "utf_16be", "unicodebigunmarked"])]
  let name := plainName name
  let spellings := [name, name.map fun letter => if letter = '.' then '_' else letter]
  let isOneOf (names : List String) : Bool := spellings.any fun name =>
    names.contains (String.ofList name)
  ((known.find? fun entry => isOneOf entry.2).map (·.1)).or
    ((byteRows.find? fun row => isOneOf row.names).map .singleByte)

def replacement : Char := '\uFFFD'

/-- The sixteen-bit units of bytes; an odd byte at the end is a unit that is cut short. -/
def units (big : Bool) : List UInt8 → List (Option Nat)
  | first :: second :: rest =>
      some (if big then first.toNat * 256 + second.toNat else second.toNat * 256 + first.toNat) ::
        units big rest
  | [_] => [none]
  | [] => []

/-- The characters of sixteen-bit units; a pair that is cut short at the end counts once. -/
def ofUnits : List (Option Nat) → Text
  | some high :: some low :: rest =>
      if isHighSurrogate high then
        if isLowSurrogate low then joinSurrogates high low :: ofUnits rest
        else replacement :: ofUnits (some low :: rest)
      else
        (if isLowSurrogate high then replacement else Char.ofNat high) :: ofUnits (some low :: rest)
  | [some high, none] =>
      if isHighSurrogate high then [replacement]
      else [if isLowSurrogate high then replacement else Char.ofNat high, replacement]
  | some unit :: rest =>
      (if isHighSurrogate unit || isLowSurrogate unit then replacement else Char.ofNat unit) ::
        ofUnits rest
  | none :: rest => replacement :: ofUnits rest
  | [] => []

/-- The text of bytes in a character set. Sixteen-bit units of either order must tell their order
by a mark in front. -/
def Charset.decode? (charset : Charset) (bytes : List UInt8) : Option Text :=
  match charset with
  | .utf8 => some (Utf8.decodeLossy bytes)
  | .markedUtf8 =>
      match bytes with
      | 0xef :: 0xbb :: 0xbf :: rest => some (Utf8.decodeLossy rest)
      | _ => some (Utf8.decodeLossy bytes)
  | .ascii =>
      some (bytes.map fun byte => if byte < 0x80 then Char.ofNat byte.toNat else replacement)
  | .latin1 => some (bytes.map fun byte => Char.ofNat byte.toNat)
  | .singleByte row => some (bytes.map row.char)
  | .utf16 =>
      match bytes with
      | 0xff :: 0xfe :: rest => some (ofUnits (units false rest))
      | 0xfe :: 0xff :: rest => some (ofUnits (units true rest))
      | _ :: _ :: _ => none
      | _ => some (ofUnits (units false bytes))
  | .utf16Little => some (ofUnits (units false bytes))
  | .utf16Big => some (ofUnits (units true bytes))

/-- The text of a body with a content type. -/
def bodyText? (contentType : Option Text) (body : List UInt8) : Option Text :=
  (((contentType.bind charsetName?).bind ofName?).getD .utf8).decode? body

end ApiForge.Discovery

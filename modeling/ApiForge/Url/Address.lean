import ApiForge.Url.Percent

/-!
# Numeric addresses

An address of four numbers below 256 with dots between them, or of eight groups
of hexadecimal digits with colons between them, of which one stretch of zero
groups may be left out.
-/

namespace ApiForge.Url

/-- A number below 256 without leading zeros. -/
def isOctet (text : Text) : Bool :=
  text.all Char.isDigit && 1 ≤ text.length && text.length ≤ 3 &&
    !(text.head? == some '0' && 1 < text.length) && ((Numeral.natural? 10 text).any (· ≤ 255))

def isAddress4 (text : Text) : Bool :=
  let parts := text.splitOn '.'
  parts.length == 4 && parts.all isOctet

/-- One to four hexadecimal digits. -/
def isGroup (text : Text) : Bool :=
  1 ≤ text.length && text.length ≤ 4 && text.all isHexDigit

/-- The groups of an address, an address of four numbers at the end counting as two. -/
def groups? (text : Text) : Option (List Text) :=
  let parts := text.splitOn ':'
  match parts.getLast? with
  | none => none
  | some last =>
      if parts.length < 3 then none
      else if last.contains '.' then
        if isAddress4 last then some (parts.dropLast ++ ["0".toList, "0".toList]) else none
      else some parts

/-- Empty groups between the first and the last one. -/
def innerGaps (parts : List Text) : Nat :=
  ((parts.drop 1).dropLast.filter List.isEmpty).length

/-- The groups make up an address. -/
def areGroups (parts : List Text) : Bool :=
  let filled := parts.filter fun part => !part.isEmpty
  let startsOpen := (parts.headD []).isEmpty
  let endsOpen := (parts.getLast?.getD []).isEmpty
  parts.length ≤ 9 && filled.all isGroup &&
    match innerGaps parts with
    | 0 => parts.length == 8 && !startsOpen && !endsOpen
    | 1 =>
        let isGap (place : Nat) : Bool := (parts.getD place []).isEmpty
        (!startsOpen || isGap 1) && (!endsOpen || isGap (parts.length - 2)) && filled.length ≤ 7
    | _ => false

/-- An address with colons, which a percent sign and the name of a zone may follow. -/
def isAddress6 (text : Text) : Bool :=
  if text.contains '/' then false
  else
    match text.cutAt '%' with
    | (address, none) => (groups? address).any areGroups
    | (address, some zone) =>
        !zone.isEmpty && !zone.contains '%' && (groups? address).any areGroups

/-- Four runs of digits, each followed by any character; `groups` runs are to come after this one,
which has digits already if `started`. -/
def isNumeric4 : Nat → Bool → Text → Bool
  | 0, true, text => text.all Char.isDigit
  | _, false, [] => false
  | groups, false, letter :: rest => letter.isDigit && isNumeric4 groups true rest
  | groups + 1, true, letter :: rest =>
      (letter.isDigit && isNumeric4 (groups + 1) true rest) || isNumeric4 groups false rest
  | _ + 1, true, [] => false

end ApiForge.Url

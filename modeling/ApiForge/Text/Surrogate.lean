import ApiForge.Text.Basic

/-!
# Lone surrogates

A written document may name half of a surrogate pair by its number. Such a half
is not a character, so the last 2048 private code points of plane sixteen stand
for the halves: they travel through texts like any character, are spelled by
the number of the half, and cannot be encoded. The price is that a document
that holds one of those private code points itself is read as if it held the
half.
-/

namespace ApiForge

/-- The distance between a half and the character that stands for it. -/
def surrogateShift : Nat := 0x102000

/-- The stand-in of a half pair, `0xD800 ≤ unit ≤ 0xDFFF`. -/
def loneSurrogate (unit : Nat) : Char :=
  Char.ofNat (unit + surrogateShift)

def isLoneSurrogate (letter : Char) : Bool :=
  0xD800 + surrogateShift ≤ letter.toNat

/-- The code point that a character denotes, which for a stand-in is the half. -/
def codePoint (letter : Char) : Nat :=
  if isLoneSurrogate letter then letter.toNat - surrogateShift else letter.toNat

def isHighSurrogate (unit : Nat) : Bool :=
  0xD800 ≤ unit && unit ≤ 0xDBFF

def isLowSurrogate (unit : Nat) : Bool :=
  0xDC00 ≤ unit && unit ≤ 0xDFFF

/-- The character that two halves make together. -/
def joinSurrogates (high low : Nat) : Char :=
  Char.ofNat (0x10000 + (high - 0xD800) * 0x400 + (low - 0xDC00))

/-- The character of a code point, a stand-in for a half pair, nothing past the last plane. -/
def charOfCodePoint? (number : Nat) : Option Char :=
  if isHighSurrogate number || isLowSurrogate number then some (loneSurrogate number)
  else if number < 0x110000 then some (Char.ofNat number)
  else none

/-- The sixteen-bit units of a character. -/
def codeUnits (letter : Char) : List Nat :=
  let number := codePoint letter
  if number < 0x10000 then [number]
  else [0xD800 + (number - 0x10000) / 0x400, 0xDC00 + (number - 0x10000) % 0x400]

end ApiForge

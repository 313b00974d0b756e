import ApiForge.Text.Surrogate

/-!
# UTF-8

Texts as bytes. Encoding fails only at a lone surrogate. Decoding marks every
maximal ill-formed stretch, so that one reading serves both those who refuse
ill-formed bytes and those who replace each stretch by one character.
-/

namespace ApiForge.Utf8

def encodeChar (letter : Char) : List UInt8 :=
  let number := letter.toNat
  if number < 0x80 then [number.toUInt8]
  else if number < 0x800 then [(0xC0 + number / 0x40).toUInt8, (0x80 + number % 0x40).toUInt8]
  else if number < 0x10000 then
    [(0xE0 + number / 0x1000).toUInt8, (0x80 + number / 0x40 % 0x40).toUInt8,
      (0x80 + number % 0x40).toUInt8]
  else
    [(0xF0 + number / 0x40000).toUInt8, (0x80 + number / 0x1000 % 0x40).toUInt8,
      (0x80 + number / 0x40 % 0x40).toUInt8, (0x80 + number % 0x40).toUInt8]

/-- A stretch of lone surrogates that has no bytes: its first one, where it starts and its length. -/
structure Unencodable where
  letter : Char
  position : Nat
  count : Nat
  deriving DecidableEq, Repr

/-- The bytes of a text whose first character is at `position`. -/
def encodeAt (position : Nat) : Text → Except Unencodable (List UInt8)
  | [] => .ok []
  | letter :: rest =>
      if isLoneSurrogate letter then
        .error ⟨letter, position, (rest.takeWhile isLoneSurrogate).length + 1⟩
      else do
        let bytes ← encodeAt (position + 1) rest
        pure (encodeChar letter ++ bytes)

def encode (text : Text) : Except Unencodable (List UInt8) :=
  encodeAt 0 text

/-- A character begun: how many bytes are owed, the range of the next one, the bits so far. -/
structure Partial where
  owed : Nat
  low : Nat
  high : Nat
  bits : Nat

/-- What a first byte says. -/
inductive Lead where
  | whole (letter : Char)
  | begun (state : Partial)
  | bad

def lead (byte : UInt8) : Lead :=
  let number := byte.toNat
  if number < 0x80 then .whole (Char.ofNat number)
  else if number < 0xC2 then .bad
  else if number < 0xE0 then .begun ⟨1, 0x80, 0xBF, number - 0xC0⟩
  else if number = 0xE0 then .begun ⟨2, 0xA0, 0xBF, 0⟩
  else if number = 0xED then .begun ⟨2, 0x80, 0x9F, 13⟩
  else if number < 0xF0 then .begun ⟨2, 0x80, 0xBF, number - 0xE0⟩
  else if number = 0xF0 then .begun ⟨3, 0x90, 0xBF, 0⟩
  else if number < 0xF4 then .begun ⟨3, 0x80, 0xBF, number - 0xF0⟩
  else if number = 0xF4 then .begun ⟨3, 0x80, 0x8F, 4⟩
  else .bad

/-- The characters of a byte sequence, with `none` for each maximal ill-formed stretch. -/
def decodeFrom : Option Partial → List UInt8 → List (Option Char)
  | none, [] => []
  | some _, [] => [none]
  | none, byte :: rest =>
      match lead byte with
      | .whole letter => some letter :: decodeFrom none rest
      | .begun state => decodeFrom (some state) rest
      | .bad => none :: decodeFrom none rest
  | some state, byte :: rest =>
      if state.low ≤ byte.toNat ∧ byte.toNat ≤ state.high then
        let bits := state.bits * 0x40 + (byte.toNat - 0x80)
        if state.owed = 1 then some (Char.ofNat bits) :: decodeFrom none rest
        else decodeFrom (some ⟨state.owed - 1, 0x80, 0xBF, bits⟩) rest
      else
        match lead byte with
        | .whole letter => none :: some letter :: decodeFrom none rest
        | .begun next => none :: decodeFrom (some next) rest
        | .bad => none :: none :: decodeFrom none rest

def decode (bytes : List UInt8) : List (Option Char) :=
  decodeFrom none bytes

/-- The text of well-formed bytes. -/
def decodeStrict? (bytes : List UInt8) : Option Text :=
  (decode bytes).mapM id

/-- The text with each ill-formed stretch replaced by the replacement character. -/
def decodeLossy (bytes : List UInt8) : Text :=
  (decode bytes).map (·.getD '\uFFFD')

end ApiForge.Utf8

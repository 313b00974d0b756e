/-!
# Texts

A text is its list of characters, so that every statement about a text goes by
induction on it. String literals stand for their characters wherever a text is
expected. The operations are those that the readers and writers share: joining,
cutting at a character, replacing and searching.
-/

namespace ApiForge

abbrev Text := List Char

instance : Coe String Text := ⟨String.toList⟩

namespace Text

/-- The decimal digits of a number, without leading zeros. -/
def ofNat (number : Nat) : Text :=
  Nat.toDigits 10 number

def ofInt : Int → Text
  | .ofNat number => ofNat number
  | .negSucc number => '-' :: ofNat (number + 1)

/-- The lower-case hexadecimal digits of a number, padded with zeros to `width`. -/
def hex (width number : Nat) : Text :=
  let digits := Nat.toDigits 16 number
  List.replicate (width - digits.length) '0' ++ digits

/-- The decimal digits of a number, padded with zeros to `width`. -/
def padded (width number : Nat) : Text :=
  let digits := ofNat number
  List.replicate (width - digits.length) '0' ++ digits

/-- The parts in order with the separator between neighbours. -/
def join (separator : Text) : List Text → Text
  | [] => []
  | [part] => part
  | part :: other :: rest => part ++ separator ++ join separator (other :: rest)

/-- Lines joined by line feeds. -/
def lines (parts : List Text) : Text :=
  join ['\n'] parts

/-- The pieces between the separators; there is one piece more than separators. -/
def splitOn (separator : Char) : Text → List Text
  | [] => [[]]
  | letter :: rest =>
      if letter = separator then [] :: splitOn separator rest
      else
        match splitOn separator rest with
        | [] => [[letter]]
        | piece :: pieces => (letter :: piece) :: pieces

theorem splitOn_ne_nil (separator : Char) (text : Text) : splitOn separator text ≠ [] := by
  cases text with
  | nil => simp [splitOn]
  | cons letter rest =>
      unfold splitOn
      split
      · simp
      · split <;> simp

/-- Cutting at the separator and joining with it gives the text back. -/
theorem join_splitOn (separator : Char) (text : Text) :
    join [separator] (splitOn separator text) = text := by
  induction text with
  | nil => rfl
  | cons letter rest ih =>
      unfold splitOn
      split
      · next same =>
          cases pieces : splitOn separator rest with
          | nil => exact absurd pieces (splitOn_ne_nil separator rest)
          | cons piece others =>
              rw [pieces] at ih
              simp [join, ih, same]
      · cases pieces : splitOn separator rest with
        | nil => exact absurd pieces (splitOn_ne_nil separator rest)
        | cons piece others =>
            rw [pieces] at ih
            cases others with
            | nil => simpa [join] using ih
            | cons second others => simpa [join] using ih

/-- The part before the first separator and, if there is one, the part after it. -/
def cutAt (separator : Char) (text : Text) : Text × Option Text :=
  match text.span (· != separator) with
  | (before, []) => (before, none)
  | (before, _ :: after) => (before, some after)

/-- Replaces from left to right the stretches equal to `old`, where the next `skip` characters
belong to a stretch already replaced. -/
def replaceAfter (old new : Text) : Nat → Text → Text
  | _, [] => []
  | skip + 1, _ :: rest => replaceAfter old new skip rest
  | 0, letter :: rest =>
      if old.isPrefixOf (letter :: rest) then new ++ replaceAfter old new (old.length - 1) rest
      else letter :: replaceAfter old new 0 rest

/-- Replaces the stretches equal to a non-empty `old`, from left to right. -/
def replace (text old new : Text) : Text :=
  replaceAfter old new 0 text

/-- Puts a text in the place of every occurrence of one character. -/
def replaceChar (text : Text) (old : Char) (new : Text) : Text :=
  text.flatMap fun letter => if letter = old then new else [letter]

def startsWith (text start : Text) : Bool :=
  start.isPrefixOf text

def endsWith (text final : Text) : Bool :=
  final.isSuffixOf text

/-- The text holds `part` as a stretch. -/
def holds (text part : Text) : Bool :=
  part.isPrefixOf text ||
    match text with
    | [] => false
    | _ :: rest => holds rest part

/-- The text without the characters at its end that satisfy `drop`. -/
def dropEnd (drop : Char → Bool) (text : Text) : Text :=
  (text.reverse.dropWhile drop).reverse

def toUpper (text : Text) : Text :=
  text.map Char.toUpper

/-- Order by code points, a proper start coming first. -/
def isBefore : Text → Text → Bool
  | [], [] => false
  | [], _ :: _ => true
  | _ :: _, [] => false
  | first :: rest, second :: tail =>
      if first = second then isBefore rest tail else first.toNat < second.toNat

/-- Sorts by code points of a key; equal keys keep their order. -/
def sortBy {α : Type} (key : α → Text) (values : List α) : List α :=
  values.mergeSort fun first second => !isBefore (key second) (key first)

end Text

end ApiForge

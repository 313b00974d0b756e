import ApiForge.Text.Basic

/-!
# Blanks and line breaks

The characters that count as white space at the ends of a text are the ASCII
blanks, the four information separators and the spaces of every script. A line
ends at a line feed, a carriage return, the two together, a vertical tab, a form
feed, an information separator, the next-line control or a Unicode line or
paragraph separator. The last line needs no end, so an empty text has no line at
all.
-/

namespace ApiForge

/-- White space of every script. -/
def isBlank (letter : Char) : Bool :=
  letter.isWhitespace || [0x0b, 0x0c, 0x1c, 0x1d, 0x1e, 0x1f, 0x85, 0xa0, 0x1680, 0x2028, 0x2029,
    0x202f, 0x205f, 0x3000].contains letter.toNat ||
    (0x2000 ≤ letter.toNat && letter.toNat ≤ 0x200a)

theorem isBlank_of_isWhitespace {letter : Char} (blank : letter.isWhitespace = true) :
    isBlank letter = true := by
  simp [isBlank, blank]

namespace Text

def stripStart (text : Text) : Text :=
  text.dropWhile isBlank

def stripEnd (text : Text) : Text :=
  text.dropEnd isBlank

/-- The text without the blanks at both ends. -/
def strip (text : Text) : Text :=
  (stripStart text).stripEnd

def isAllBlank (text : Text) : Bool :=
  text.all isBlank

end Text

/-! ## Line breaks -/

/-- Each of these ends a line by itself. -/
def isLineBreak (letter : Char) : Bool :=
  [0x0a, 0x0b, 0x0c, 0x0d, 0x1c, 0x1d, 0x1e, 0x85, 0x2028, 0x2029].contains letter.toNat

namespace Text

/-- Puts one character in front of the first line. -/
def consLine (letter : Char) : List Text → List Text
  | [] => [[letter]]
  | line :: rest => (letter :: line) :: rest

/-- The lines without their ends. -/
def splitLines : Text → List Text
  | [] => []
  | '\r' :: '\n' :: rest => [] :: splitLines rest
  | letter :: rest =>
      if isLineBreak letter then [] :: splitLines rest
      else consLine letter (splitLines rest)

/-- No line holds a line break. -/
theorem splitLines_isLineBreak (text : Text) :
    ∀ line ∈ splitLines text, ∀ letter ∈ line, isLineBreak letter = false := by
  induction text using splitLines.induct with
  | case1 => simp [splitLines]
  | case2 rest ih => simpa [splitLines] using ih
  | case3 letter rest notPair isBreak ih =>
      rw [splitLines.eq_3 letter rest notPair, if_pos isBreak]
      simpa using ih
  | case4 letter rest notPair noBreak ih =>
      rw [splitLines.eq_3 letter rest notPair, if_neg noBreak]
      cases lines : splitLines rest with
      | nil => simpa [consLine] using noBreak
      | cons line others =>
          rw [lines] at ih
          simp only [consLine, List.mem_cons, forall_eq_or_imp] at ih ⊢
          exact ⟨⟨by simpa using noBreak, ih.1⟩, ih.2⟩

end Text

end ApiForge

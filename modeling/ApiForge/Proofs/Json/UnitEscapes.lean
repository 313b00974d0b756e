import ApiForge.Proofs.Json.Tokens
import ApiForge.Text.Surrogate
import Mathlib.Data.List.Chain

/-!
# Units of string literals

A text as the sixteen-bit units that spell it, and the text that units spell.
Two halves of a pair that meet are one character for a reader of units, so a
text is got back if no halves meet in it. A string literal as a reader of units
has it: a numbered escape is one unit, and every other letter stands for its own
units. The ASCII form of a text is a literal with the units of the text.
-/

namespace ApiForge

theorem toNat_lt (letter : Char) : letter.toNat < 0x110000 := by
  rcases letter.valid with low | ⟨_, high⟩
  · exact Nat.lt_trans low (by decide)
  · exact high

theorem isLoneSurrogate_iff {letter : Char} :
    isLoneSurrogate letter = true ↔ 0x10F800 ≤ letter.toNat := by
  rw [isLoneSurrogate, decide_eq_true_iff]
  rfl

theorem codePoint_lt (letter : Char) : codePoint letter < 0x110000 := by
  have bound := toNat_lt letter
  unfold codePoint
  split
  · exact (Nat.sub_le ..).trans_lt bound
  · exact bound

theorem isHighSurrogate_iff {unit : Nat} :
    isHighSurrogate unit = true ↔ 0xD800 ≤ unit ∧ unit ≤ 0xDBFF := by
  rw [isHighSurrogate, Bool.and_eq_true, decide_eq_true_iff, decide_eq_true_iff]

theorem isLowSurrogate_iff {unit : Nat} :
    isLowSurrogate unit = true ↔ 0xDC00 ≤ unit ∧ unit ≤ 0xDFFF := by
  rw [isLowSurrogate, Bool.and_eq_true, decide_eq_true_iff, decide_eq_true_iff]

/-- The code point that a character denotes is the character's. -/
theorem charOfCodePoint?_codePoint (letter : Char) :
    charOfCodePoint? (codePoint letter) = some letter := by
  have bound := toNat_lt letter
  unfold codePoint charOfCodePoint?
  by_cases lone : isLoneSurrogate letter = true
  · have start := isLoneSurrogate_iff.mp lone
    have half : isHighSurrogate (letter.toNat - surrogateShift) = true ∨
        isLowSurrogate (letter.toNat - surrogateShift) = true := by
      rw [isHighSurrogate_iff, isLowSurrogate_iff, surrogateShift]
      omega
    rw [if_pos lone, if_pos (by simpa using half), loneSurrogate, surrogateShift,
      Nat.sub_add_cancel (by omega), Char.ofNat_toNat]
  · have whole : ¬ (isHighSurrogate letter.toNat = true ∨ isLowSurrogate letter.toNat = true) := by
      rw [isHighSurrogate_iff, isLowSurrogate_iff]
      rcases letter.valid with low | ⟨high, _⟩
      · have value : letter.toNat < 0xD800 := low
        omega
      · have value : 0xDFFF < letter.toNat := high
        omega
    rw [if_neg lone, if_neg (by simpa using whole), if_pos bound, Char.ofNat_toNat]

/-- A character beyond sixteen bits is made of its halves. -/
theorem joinSurrogates_of_large {letter : Char} (large : 0x10000 ≤ codePoint letter) :
    joinSurrogates (0xD800 + (codePoint letter - 0x10000) / 0x400)
      (0xDC00 + (codePoint letter - 0x10000) % 0x400) = letter := by
  have same : codePoint letter = letter.toNat := by
    have bound := toNat_lt letter
    unfold codePoint at large ⊢
    split
    · next lone =>
        rw [if_pos lone, surrogateShift] at large
        omega
    · rfl
  have number : 0x10000 + (0xD800 + (codePoint letter - 0x10000) / 0x400 - 0xD800) * 0x400 +
      (0xDC00 + (codePoint letter - 0x10000) % 0x400 - 0xDC00) = letter.toNat := by omega
  rw [joinSurrogates, number, Char.ofNat_toNat]

theorem codeUnits_of_small {letter : Char} (small : codePoint letter < 0x10000) :
    codeUnits letter = [codePoint letter] :=
  if_pos small

theorem codeUnits_of_large {letter : Char} (large : 0x10000 ≤ codePoint letter) :
    codeUnits letter = [0xD800 + (codePoint letter - 0x10000) / 0x400,
      0xDC00 + (codePoint letter - 0x10000) % 0x400] :=
  if_neg (Nat.not_lt.mpr large)

theorem codeUnits_lt {letter : Char} : ∀ unit ∈ codeUnits letter, unit < 0x10000 := by
  intro unit member
  have bound := codePoint_lt letter
  rcases Nat.lt_or_ge (codePoint letter) 0x10000 with small | large
  · rw [codeUnits_of_small small, List.mem_singleton] at member
    exact member ▸ small
  · rw [codeUnits_of_large large, List.mem_cons, List.mem_singleton] at member
    omega

/-- Only half of a pair by itself begins with the unit of a low half. -/
theorem isLowSurrogate_of_head {letter : Char} {unit : Nat} {rest : List Nat}
    (begins : codeUnits letter = unit :: rest) (low : isLowSurrogate unit = true) :
    isLowSurrogate (codePoint letter) = true := by
  rcases Nat.lt_or_ge (codePoint letter) 0x10000 with small | large
  · rw [codeUnits_of_small small] at begins
    obtain ⟨rfl, _⟩ := List.cons.inj begins
    exact low
  · rw [codeUnits_of_large large] at begins
    have bound := codePoint_lt letter
    have first := (List.cons.inj begins).1
    rw [isLowSurrogate_iff] at low
    omega

namespace Text

/-- The units that spell a text. -/
def units (text : Text) : List Nat :=
  text.flatMap codeUnits

/-- The character of a unit that is not part of a pair. -/
def ofUnit (unit : Nat) : Char :=
  (charOfCodePoint? unit).getD '\uFFFD'

/-- The text that units spell. -/
def ofUnits : List Nat → Text
  | [] => []
  | [unit] => [ofUnit unit]
  | first :: second :: rest =>
      if isHighSurrogate first && isLowSurrogate second then
        joinSurrogates first second :: ofUnits rest
      else ofUnit first :: ofUnits (second :: rest)

/-- The text as a reader of units has it, where halves that meet are one character. -/
def joined (text : Text) : Text :=
  ofUnits text.units

/-- No high half of a pair stands right before a low half. -/
def IsWhole (text : Text) : Prop :=
  text.IsChain fun first second =>
    ¬ (isHighSurrogate (codePoint first) = true ∧ isLowSurrogate (codePoint second) = true)

instance (text : Text) : Decidable (IsWhole text) :=
  inferInstanceAs (Decidable (List.IsChain _ text))

theorem ofUnits_cons_of_apart {first : Nat} {rest : List Nat}
    (apart : ∀ second ∈ rest.head?, ¬ (isHighSurrogate first = true ∧
      isLowSurrogate second = true)) :
    ofUnits (first :: rest) = ofUnit first :: ofUnits rest := by
  cases rest with
  | nil => rfl
  | cons second others =>
      rw [ofUnits, if_neg (by simpa using apart second rfl)]

theorem head?_units {text : Text} {unit : Nat} (begins : unit ∈ text.units.head?) :
    ∃ letter rest, text.head? = some letter ∧ codeUnits letter = unit :: rest := by
  cases text with
  | nil => cases begins
  | cons letter others =>
      rcases Nat.lt_or_ge (codePoint letter) 0x10000 with small | large
      · rw [units, List.flatMap_cons, codeUnits_of_small small] at begins
        obtain rfl := Option.some.inj begins
        exact ⟨letter, [], rfl, codeUnits_of_small small⟩
      · rw [units, List.flatMap_cons, codeUnits_of_large large] at begins
        obtain rfl := Option.some.inj begins
        exact ⟨letter, _, rfl, codeUnits_of_large large⟩

/-- A text in which no halves meet is got back from its units. -/
theorem joined_eq_self {text : Text} (whole : IsWhole text) : joined text = text := by
  unfold joined
  induction text with
  | nil => rfl
  | cons letter rest ih =>
      obtain ⟨apart, wholeRest⟩ := List.isChain_cons.mp whole
      have inRest : ofUnits (units rest) = rest := ih wholeRest
      rcases Nat.lt_or_ge (codePoint letter) 0x10000 with small | large
      · have spelled : units (letter :: rest) = codePoint letter :: units rest := by
          rw [units, List.flatMap_cons, codeUnits_of_small small]
          rfl
        have known : ofUnit (codePoint letter) = letter := by
          rw [ofUnit, charOfCodePoint?_codePoint, Option.getD_some]
        rw [spelled, ofUnits_cons_of_apart, known, inRest]
        rintro unit begins ⟨high, low⟩
        obtain ⟨next, _, first, starts⟩ := head?_units begins
        exact apart next first ⟨high, isLowSurrogate_of_head starts low⟩
      · have spelled : units (letter :: rest) =
            (0xD800 + (codePoint letter - 0x10000) / 0x400) ::
              (0xDC00 + (codePoint letter - 0x10000) % 0x400) :: units rest := by
          rw [units, List.flatMap_cons, codeUnits_of_large large]
          rfl
        have bound := codePoint_lt letter
        have high : isHighSurrogate (0xD800 + (codePoint letter - 0x10000) / 0x400) = true :=
          isHighSurrogate_iff.mpr (by omega)
        have low : isLowSurrogate (0xDC00 + (codePoint letter - 0x10000) % 0x400) = true :=
          isLowSurrogate_iff.mpr (by omega)
        rw [spelled, ofUnits, high, low, Bool.and_self, if_pos rfl, joinSurrogates_of_large large,
          inRest]

/-- Two halves that meet and the character they make have the same units. -/
example : joined [loneSurrogate 0xD83D, loneSurrogate 0xDE00] = joined ['😀'] := by decide

end Text

end ApiForge

namespace ApiForge.Json

/-- The units of a literal up to the quote that closes it, and what follows. -/
def literalUnits? : Text → Option (List Nat × Text)
  | [] => none
  | '"' :: rest => some ([], rest)
  | '\\' :: 'u' :: first :: second :: third :: fourth :: rest => do
      let (unit, _) ← hexQuad? [first, second, third, fourth]
      let (others, after) ← literalUnits? rest
      pure (unit :: others, after)
  | '\\' :: letter :: rest => do
      let escaped ← escaped? letter
      let (others, after) ← literalUnits? rest
      pure (codeUnits escaped ++ others, after)
  | letter :: rest => do
      let (others, after) ← literalUnits? rest
      pure (codeUnits letter ++ others, after)

/-! ## Numbered escapes -/

/-- The units come before those of the rest of a literal. -/
def before (units : List Nat) (read : Option (List Nat × Text)) : Option (List Nat × Text) :=
  read.map fun (others, after) => (units ++ others, after)

theorem before_nil (read : Option (List Nat × Text)) : before [] read = read := by
  cases read <;> rfl

theorem before_append (first second : List Nat) (read : Option (List Nat × Text)) :
    before first (before second read) = before (first ++ second) read := by
  cases read with
  | none => rfl
  | some found => simp [before]

theorem literalUnits?_numberedEscape {unit : Nat} (small : unit < 0x10000) (rest : Text) :
    literalUnits? (numberedEscape unit ++ rest) = before [unit] (literalUnits? rest) := by
  obtain ⟨first, second, third, fourth, digits, spelled⟩ := exists_hex_eq small
  have text : numberedEscape unit ++ rest =
      '\\' :: 'u' :: first :: second :: third :: fourth :: rest := by
    rw [numberedEscape, digits]
    rfl
  rw [text, literalUnits?, spelled []]
  cases literalUnits? rest <;> rfl

theorem literalUnits?_numberedEscapes {units : List Nat} (small : ∀ unit ∈ units, unit < 0x10000)
    (rest : Text) :
    literalUnits? (units.flatMap numberedEscape ++ rest) = before units (literalUnits? rest) := by
  induction units with
  | nil => exact (before_nil _).symm
  | cons unit others ih =>
      have inOthers := ih fun other member => small other (List.mem_cons_of_mem _ member)
      rw [List.flatMap_cons, List.append_assoc,
        literalUnits?_numberedEscape (small unit List.mem_cons_self), inOthers, before_append]
      rfl

/-! ## Escaped letters -/

theorem escapeChar_true (letter : Char) :
    escapeChar true letter =
      if 0x7f ≤ letter.toNat then (codeUnits letter).flatMap numberedEscape
      else escapeChar false letter := by
  by_cases large : 0x7f ≤ letter.toNat
  · have unlike (special : Char) (small : special.toNat < 0x7f) : letter ≠ special :=
      fun same => absurd large (Nat.not_le.mpr (same ▸ small))
    rw [if_pos large, escapeChar, if_neg (unlike _ (by decide)), if_neg (unlike _ (by decide)),
      if_neg (unlike _ (by decide)), if_neg (unlike _ (by decide)), if_neg (unlike _ (by decide)),
      if_neg (unlike _ (by decide)), if_neg (unlike _ (by decide)), if_neg (by omega),
      if_pos (by simpa using large)]
  · rw [if_neg large, escapeChar, escapeChar]
    simp [large]

theorem codeUnits_of_ascii {letter : Char} (small : letter.toNat < 0x80) :
    codeUnits letter = [letter.toNat] := by
  have whole : ¬ isLoneSurrogate letter = true := by
    rw [isLoneSurrogate_iff]
    omega
  have same : codePoint letter = letter.toNat := if_neg whole
  rw [← same]
  exact codeUnits_of_small (by omega)

/-- The spelling of a letter has the units of the letter. -/
theorem literalUnits?_escapeChar (letter : Char) (rest : Text) :
    literalUnits? (escapeChar true letter ++ rest) =
      before (codeUnits letter) (literalUnits? rest) := by
  rw [escapeChar_true]
  split
  · exact literalUnits?_numberedEscapes codeUnits_lt rest
  · obtain ⟨mark, known, apart, _, _, spelled⟩ | ⟨control, spelled⟩ |
      ⟨visible, quote, backslash, spelled⟩ := escapeChar_cases letter
    · rw [spelled, List.cons_append, List.cons_append, List.nil_append, literalUnits?, known]
      · cases literalUnits? rest <;> rfl
      · exact fun _ _ _ _ _ same => absurd same apart
    · rw [spelled, literalUnits?_numberedEscape (by omega), codeUnits_of_ascii (by omega)]
    · rw [spelled, List.singleton_append, literalUnits?]
      · cases literalUnits? rest <;> rfl
      · exact quote
      · exact fun _ _ _ _ _ same => absurd same backslash
      · exact fun _ _ same => absurd same backslash

/-- The quoted form of a text is read as its units. -/
theorem literalUnits?_quote (text rest : Text) :
    ∃ after, quote true text ++ rest = '"' :: after ∧
      literalUnits? after = some (text.units, rest) := by
  refine ⟨text.flatMap (escapeChar true) ++ '"' :: rest, by simp [quote], ?_⟩
  induction text with
  | nil => rfl
  | cons letter others ih =>
      rw [List.flatMap_cons, List.append_assoc, literalUnits?_escapeChar, ih]
      rfl

end ApiForge.Json

import ApiForge.Markdown.Cell
import ApiForge.Proofs.Text.Stretches

/-!
# Bars and lines of cells

In a table a bar begins a cell unless an odd number of backslashes stands right
before it. Making a text fit for a cell puts one backslash before every bar, so
what counts afterwards are the bars that the text had escaped itself. All line
feeds go; of the carriage returns some stay.
-/

namespace ApiForge.Markdown

/-! ## Bars -/

/-- The bars whose number of backslashes right before them is odd or even, as asked for; `odd` says
it of the backslashes right before the text. -/
def barsFrom (asked odd : Bool) : Text → Nat
  | [] => 0
  | letter :: rest =>
      if letter = '\\' then barsFrom asked (!odd) rest
      else if letter = '|' then (if odd = asked then 1 else 0) + barsFrom asked false rest
      else barsFrom asked false rest

/-- The bars that begin or end a cell. -/
def openBars (text : Text) : Nat :=
  barsFrom false false text

/-- The bars that the text itself has escaped. -/
def guardedBars (text : Text) : Nat :=
  barsFrom true false text

/-- Neither a bar nor a backslash. -/
def IsNeutral (letter : Char) : Prop :=
  letter ≠ '\\' ∧ letter ≠ '|'

instance (letter : Char) : Decidable (IsNeutral letter) :=
  inferInstanceAs (Decidable (_ ∧ _))

theorem barsFrom_neutral {asked odd : Bool} {letter : Char} (neutral : IsNeutral letter)
    (rest : Text) : barsFrom asked odd (letter :: rest) = barsFrom asked false rest := by
  rw [barsFrom, if_neg neutral.1, if_neg neutral.2]

/-- A neutral letter separates what is counted before it from what is counted after it. -/
theorem barsFrom_append {asked odd : Bool} {first : Text} {letter : Char}
    (neutral : IsNeutral letter) (second : Text) :
    barsFrom asked odd (first ++ letter :: second) =
      barsFrom asked odd first + barsFrom asked false second := by
  induction first generalizing odd with
  | nil => rw [List.nil_append, barsFrom_neutral neutral, barsFrom, Nat.zero_add]
  | cons head rest ih =>
      rw [List.cons_append, barsFrom, barsFrom, ih, ih]
      split
      · rfl
      · split
        · exact (Nat.add_assoc ..).symm
        · rfl

theorem barsFrom_of_neutral {asked odd : Bool} {text : Text}
    (neutral : ∀ letter ∈ text, IsNeutral letter) : barsFrom asked odd text = 0 := by
  induction text generalizing odd with
  | nil => rfl
  | cons letter rest ih =>
      rw [barsFrom_neutral (neutral letter List.mem_cons_self)]
      exact ih fun other member => neutral other (List.mem_cons_of_mem _ member)

/-- One more backslash before every bar. -/
theorem barsFrom_escapeBars (odd : Bool) (text : Text) :
    barsFrom false odd (escapeBars text) = barsFrom true odd text := by
  induction text generalizing odd with
  | nil => rfl
  | cons letter rest ih =>
      by_cases bar : letter = '|'
      · subst bar
        change barsFrom false odd ('\\' :: '|' :: escapeBars rest) = _
        simp only [barsFrom, ih]
        cases odd <;> rfl
      · have kept : escapeBars (letter :: rest) = letter :: escapeBars rest := by
          simp [escapeBars, Text.replaceChar, bar]
        rw [kept, barsFrom, barsFrom, ih, ih, if_neg bar, if_neg bar]

theorem isNeutral_of_isBlank {letter : Char} (blank : isBlank letter = true) :
    IsNeutral letter := by
  constructor
  · rintro rfl
    exact absurd blank (by decide)
  · rintro rfl
    exact absurd blank (by decide)

theorem barsFrom_stripStart (asked : Bool) (text : Text) :
    barsFrom asked false text.stripStart = barsFrom asked false text := by
  induction text with
  | nil => rfl
  | cons letter rest ih =>
      unfold Text.stripStart at ih ⊢
      rw [List.dropWhile_cons]
      split
      · next blank => rw [ih, barsFrom_neutral (isNeutral_of_isBlank blank)]
      · rfl

theorem barsFrom_append_of_neutral (asked odd : Bool) (text : Text) {blanks : Text}
    (neutral : ∀ letter ∈ blanks, IsNeutral letter) :
    barsFrom asked odd (text ++ blanks) = barsFrom asked odd text := by
  cases blanks with
  | nil => rw [List.append_nil]
  | cons letter rest =>
      rw [barsFrom_append (neutral letter List.mem_cons_self),
        barsFrom_of_neutral fun other member => neutral other (List.mem_cons_of_mem _ member),
        Nat.add_zero]

theorem barsFrom_strip (asked : Bool) (text : Text) :
    barsFrom asked false text.strip = barsFrom asked false text := by
  have blank : ∀ letter ∈ (text.stripStart.reverse.takeWhile isBlank).reverse,
      IsNeutral letter := fun letter member =>
    isNeutral_of_isBlank (List.mem_takeWhile_imp (List.mem_reverse.mp member))
  calc barsFrom asked false text.strip
      = barsFrom asked false text.stripStart := by
        rw [← barsFrom_append_of_neutral asked false text.strip blank, Text.strip,
          Text.stripEnd_append_takeWhile]
    _ = barsFrom asked false text := barsFrom_stripStart asked text

theorem barsFrom_replacePairs (asked odd : Bool) (text : Text) :
    barsFrom asked odd (text.replace "\r\n" "\n") = barsFrom asked odd text := by
  induction text using Text.splitLines.induct generalizing odd with
  | case1 => rfl
  | case2 rest ih =>
      rw [Text.replace_pair_cons, barsFrom_neutral (by decide), barsFrom_neutral (by decide),
        barsFrom_neutral (by decide), ih]
  | case3 letter rest notPair _ ih | case4 letter rest notPair _ ih =>
      rw [Text.replace_pair_other notPair, barsFrom, barsFrom, ih, ih]

theorem barsFrom_breaks (asked odd : Bool) (text : Text) :
    barsFrom asked odd (text.replaceChar '\n' "<br>") = barsFrom asked odd text := by
  induction text generalizing odd with
  | nil => rfl
  | cons letter rest ih =>
      by_cases feed : letter = '\n'
      · subst feed
        change barsFrom asked odd ("<br>".toList ++ Text.replaceChar rest '\n' "<br>") = _
        rw [barsFrom_neutral (by decide), ← ih]
        rfl
      · have kept : Text.replaceChar (letter :: rest) '\n' "<br>" =
            letter :: Text.replaceChar rest '\n' "<br>" := by
          simp [Text.replaceChar, feed]
        rw [kept, barsFrom, barsFrom, ih, ih]

theorem isNeutral_of_isLineBreak {letter : Char} (breaks : isLineBreak letter = true) :
    IsNeutral letter := by
  constructor
  · rintro rfl
    exact absurd breaks (by decide)
  · rintro rfl
    exact absurd breaks (by decide)

/-- An end of a line counts as little as the blank that takes its place, and as its absence at the
end of the text. -/
theorem barsFrom_joinLines (asked odd : Bool) (text : Text) :
    barsFrom asked odd (Text.join " " text.splitLines) = barsFrom asked odd text := by
  have atBreak (odd : Bool) (rest : Text)
      (ih : ∀ odd, barsFrom asked odd (Text.join " " rest.splitLines) = barsFrom asked odd rest) :
      barsFrom asked odd (Text.join " " ([] :: rest.splitLines)) = barsFrom asked false rest := by
    by_cases last : rest.splitLines = []
    · rw [← ih, last]
      rfl
    · rw [Text.join_nil_cons _ _ last, ← ih]
      exact barsFrom_neutral (by decide) _
  induction text using Text.splitLines.induct generalizing odd with
  | case1 => rfl
  | case2 rest ih =>
      rw [Text.splitLines, atBreak odd rest fun _ => ih _, barsFrom_neutral (by decide),
        barsFrom_neutral (by decide)]
  | case3 letter rest notPair isBreak ih =>
      rw [Text.splitLines.eq_3 letter rest notPair, if_pos isBreak, atBreak odd rest fun _ => ih _,
        barsFrom_neutral (isNeutral_of_isLineBreak isBreak)]
  | case4 letter rest notPair noBreak ih =>
      rw [Text.splitLines.eq_3 letter rest notPair, if_neg noBreak, Text.join_consLine, barsFrom,
        barsFrom, ih, ih]


/-! ## Lines -/

/-- The text has no line feed and no carriage return. -/
def IsOneLine (text : Text) : Prop :=
  '\n' ∉ text ∧ '\r' ∉ text

instance (text : Text) : Decidable (IsOneLine text) :=
  inferInstanceAs (Decidable (_ ∧ _))

/-- A carriage return stands between letters that are not blank, and no line feed follows it. -/
def HasBareReturn (text : Text) : Prop :=
  ∃ before after, text = before ++ '\r' :: after ∧ after.head? ≠ some '\n' ∧
    (∃ letter ∈ before, isBlank letter = false) ∧ ∃ letter ∈ after, isBlank letter = false

theorem isOneLine_append {first second : Text} :
    IsOneLine (first ++ second) ↔ IsOneLine first ∧ IsOneLine second := by
  unfold IsOneLine
  simp only [List.mem_append, not_or]
  exact and_and_and_comm

theorem isOneLine_cons {letter : Char} {rest : Text} (plain : letter ≠ '\n' ∧ letter ≠ '\r') :
    IsOneLine (letter :: rest) ↔ IsOneLine rest := by
  unfold IsOneLine
  simp only [List.mem_cons, not_or, ne_comm.mp plain.1, ne_comm.mp plain.2, not_false_eq_true,
    true_and]

theorem mem_escapeBars {letter : Char} (other : letter ≠ '|' ∧ letter ≠ '\\') (text : Text) :
    letter ∈ escapeBars text ↔ letter ∈ text := by
  unfold escapeBars Text.replaceChar
  rw [List.mem_flatMap]
  constructor
  · rintro ⟨source, member, made⟩
    split at made
    · simp [other] at made
    · exact List.mem_singleton.mp made ▸ member
  · exact fun member => ⟨letter, member, by rw [if_neg other.1]; exact List.mem_cons_self⟩

theorem mem_breaks {letter : Char} (other : letter ∉ "<br>".toList) (text : Text) :
    letter ∈ text.replaceChar '\n' "<br>" ↔ letter ∈ text ∧ letter ≠ '\n' := by
  unfold Text.replaceChar
  rw [List.mem_flatMap]
  constructor
  · rintro ⟨source, member, made⟩
    split at made
    · exact absurd made other
    · next unlike => exact List.mem_singleton.mp made ▸ ⟨member, unlike⟩
  · exact fun ⟨member, unlike⟩ => ⟨letter, member, by rw [if_neg unlike]; exact List.mem_cons_self⟩

/-- Of the carriage returns only bare ones are left. -/
theorem return_mem_strip_iff (text : Text) :
    '\r' ∈ (text.replace "\r\n" "\n").strip ↔ HasBareReturn text := by
  have kept {part : Text} : (∃ letter ∈ part.replace "\r\n" "\n", isBlank letter = false) ↔
      ∃ letter ∈ part, isBlank letter = false := by
    refine exists_congr fun letter => and_congr_left fun keep => Text.mem_replace_pairs ?_ part
    rintro rfl
    exact absurd keep (by decide)
  rw [Text.mem_strip_iff (by decide)]
  constructor
  · rintro ⟨first, second, same, start, final⟩
    obtain ⟨before, after, rfl, alone, rfl, rfl⟩ := Text.exists_of_replace_pairs same
    exact ⟨before, after, rfl, alone, kept.mp start, kept.mp final⟩
  · rintro ⟨before, after, rfl, alone, start, final⟩
    exact ⟨_, _, Text.replace_pairs_append alone before, kept.mpr start, kept.mpr final⟩

theorem cell_of_ne_nil {text : Text} (filled : text ≠ []) :
    cell (some text) =
      (escapeBars (Text.replace text "\r\n" "\n").strip).replaceChar '\n' "<br>" := by
  cases text with
  | nil => exact absurd rfl filled
  | cons letter rest => rfl

/-- A cell stays on one line unless its text has a bare carriage return. -/
theorem isOneLine_cell (text : Option Text) :
    IsOneLine (cell text) ↔ ¬ HasBareReturn (text.getD []) := by
  have none : ¬ HasBareReturn [] := by
    rintro ⟨before, after, same, _⟩
    exact absurd same.symm (List.append_ne_nil_of_right_ne_nil _ (List.cons_ne_nil _ _))
  have hyphen : IsOneLine "-" := by decide
  match text with
  | .none => exact iff_of_true hyphen none
  | some [] => exact iff_of_true hyphen none
  | some (letter :: rest) =>
      have noFeed : '\n' ∉ cell (some (letter :: rest)) := fun member =>
        ((mem_breaks (by decide) _).mp member).2 rfl
      have returns : '\r' ∈ cell (some (letter :: rest)) ↔ HasBareReturn (letter :: rest) := by
        rw [cell_of_ne_nil (List.cons_ne_nil _ _), mem_breaks (by decide),
          mem_escapeBars (by decide), return_mem_strip_iff]
        exact and_iff_left (by decide)
      rw [IsOneLine, and_iff_right noFeed, returns]
      rfl

theorem openBars_cell (text : Option Text) : openBars (cell text) = guardedBars (text.getD []) := by
  match text with
  | .none => rfl
  | some [] => rfl
  | some (letter :: rest) =>
      rw [openBars, guardedBars, cell_of_ne_nil (List.cons_ne_nil _ _), barsFrom_breaks,
        barsFrom_escapeBars, barsFrom_strip, barsFrom_replacePairs]
      rfl

theorem isOneLine_of_isLine {text : Text} (plain : ∀ letter ∈ text, isLineBreak letter = false) :
    IsOneLine text :=
  ⟨fun feed => absurd (plain _ feed) (by decide), fun ret => absurd (plain _ ret) (by decide)⟩

end ApiForge.Markdown

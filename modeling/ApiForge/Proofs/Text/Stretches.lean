import ApiForge.Text.Blank
import Mathlib.Data.List.Basic
import Mathlib.Data.List.TakeWhile

/-!
# Lines and stretches of texts

A text without line breaks is one line, and a text whose lines all end in a line
feed is cut into the lines of its parts. Which letters are left when pairs of a
carriage return and a line feed become line feeds, when blanks are taken off
both ends, and when lines are joined. And where one text stands in another: at
its start, anywhere, as one of its lines, or as what is left when blanks are
taken off its end.
-/

namespace ApiForge.Text

/-! ## Lines -/

/-- A text on one line. -/
def IsLine (text : Text) : Prop :=
  ∀ letter ∈ text, isLineBreak letter = false

instance (text : Text) : Decidable (IsLine text) :=
  List.decidableBAll _ text

/-- The text of lines that all end in a line feed. -/
def ended (lines : List Text) : Text :=
  lines.flatMap (· ++ ['\n'])

theorem splitLines_eq_nil_iff {text : Text} : text.splitLines = [] ↔ text = [] := by
  fun_cases Text.splitLines text with
  | case1 => simp
  | case2 => simp
  | case3 => simp
  | case4 letter rest =>
      cases Text.splitLines rest <;> simp [Text.consLine]

/-- A letter is taken together with the next one only if that is a line feed. -/
theorem not_pair_append {letter : Char} {text : Text} (filled : text ≠ [] ∨ letter ≠ '\r')
    (notPair : ∀ rest, letter = '\r' → text = '\n' :: rest → False) (more : Text) :
    ∀ rest, letter = '\r' → text ++ more = '\n' :: rest → False := by
  rintro rest rfl same
  cases text with
  | nil => exact filled.elim (absurd rfl) (absurd rfl)
  | cons first others =>
      obtain ⟨rfl, _⟩ := List.cons.inj same
      exact notPair others rfl rfl

/-- What stands after a line feed is cut into lines by itself. -/
theorem splitLines_feed (text rest : Text) :
    splitLines (text ++ '\n' :: rest) = splitLines (text ++ ['\n']) ++ splitLines rest := by
  induction text using splitLines.induct with
  | case1 => rfl
  | case2 text ih => simpa [splitLines] using ih
  | case3 letter text notPair isBreak ih =>
      by_cases filled : text ≠ [] ∨ letter ≠ '\r'
      · have apart := not_pair_append filled notPair
        rw [List.cons_append, List.cons_append, splitLines.eq_3 _ _ (apart _),
          splitLines.eq_3 _ _ (apart _), if_pos isBreak, if_pos isBreak, ih, List.cons_append]
      · push Not at filled
        obtain ⟨rfl, rfl⟩ := filled
        simp [splitLines]
  | case4 letter text notPair noBreak ih =>
      have filled : text ≠ [] ∨ letter ≠ '\r' := .inr fun same => noBreak (same ▸ by decide)
      have apart := not_pair_append filled notPair
      rw [List.cons_append, List.cons_append, splitLines.eq_3 _ _ (apart _),
        splitLines.eq_3 _ _ (apart _), if_neg noBreak, if_neg noBreak, ih]
      cases lines : splitLines (text ++ ['\n']) with
      | nil => simp [splitLines_eq_nil_iff] at lines
      | cons line others => rfl

/-- The lines of ended lines are those of each of them. -/
theorem splitLines_ended (lines : List Text) :
    splitLines (ended lines) = lines.flatMap fun line => splitLines (line ++ ['\n']) := by
  induction lines with
  | nil => rfl
  | cons line rest ih =>
      have cut : ended (line :: rest) = line ++ '\n' :: ended rest := by
        rw [ended, List.flatMap_cons, List.append_assoc]
        rfl
      rw [cut, splitLines_feed, ih, List.flatMap_cons]

theorem splitLines_ended_append (first second : List Text) :
    splitLines (ended (first ++ second)) = splitLines (ended first) ++ splitLines (ended second) := by
  rw [splitLines_ended, splitLines_ended, splitLines_ended, List.flatMap_append]

/-- A line that ends is one line. -/
theorem splitLines_of_isLine {text : Text} (line : text.IsLine) :
    splitLines (text ++ ['\n']) = [text] := by
  induction text with
  | nil => rfl
  | cons letter rest ih =>
      have noBreak : ¬ isLineBreak letter = true :=
        Bool.not_eq_true _ ▸ line letter List.mem_cons_self
      have apart : ∀ others, letter = '\r' → rest ++ ['\n'] = '\n' :: others → False :=
        fun _ same _ => noBreak (same ▸ by decide)
      rw [List.cons_append, splitLines.eq_3 _ _ apart, if_neg noBreak,
        ih fun other member => line other (List.mem_cons_of_mem _ member)]
      rfl

/-! ## Replaced pairs -/

/-- The pair of a carriage return and a line feed becomes the line feed. -/
theorem replace_pair_cons (rest : Text) :
    Text.replace ('\r' :: '\n' :: rest) "\r\n" "\n" = '\n' :: Text.replace rest "\r\n" "\n" :=
  rfl

theorem replace_pair_other {letter : Char} {rest : Text}
    (notPair : ∀ after, letter = '\r' → rest = '\n' :: after → False) :
    Text.replace (letter :: rest) "\r\n" "\n" = letter :: Text.replace rest "\r\n" "\n" := by
  have apart : List.isPrefixOf "\r\n".toList (letter :: rest) = false := by
    rw [Bool.eq_false_iff]
    intro starts
    obtain ⟨after, same⟩ := List.isPrefixOf_iff_prefix.mp starts
    obtain ⟨rfl, rfl⟩ := List.cons.inj same
    exact notPair after rfl rfl
  rw [Text.replace, Text.replaceAfter, apart]
  rfl

theorem mem_replace_pairs {letter : Char} (other : letter ≠ '\r') (text : Text) :
    letter ∈ text.replace "\r\n" "\n" ↔ letter ∈ text := by
  induction text using splitLines.induct with
  | case1 => rfl
  | case2 rest ih =>
      rw [replace_pair_cons]
      simp only [List.mem_cons, ih, other, false_or]
  | case3 head rest notPair _ ih | case4 head rest notPair _ ih =>
      rw [replace_pair_other notPair, List.mem_cons, List.mem_cons, ih]

/-- A carriage return that no line feed follows stays. -/
theorem replace_pairs_append {after : Text} (alone : after.head? ≠ some '\n') (before : Text) :
    Text.replace (before ++ '\r' :: after) "\r\n" "\n" =
      before.replace "\r\n" "\n" ++ '\r' :: after.replace "\r\n" "\n" := by
  induction before using splitLines.induct with
  | case1 =>
      refine replace_pair_other fun rest _ same => alone ?_
      rw [same]
      rfl
  | case2 rest ih =>
      rw [List.cons_append, List.cons_append, replace_pair_cons, replace_pair_cons, ih]
      rfl
  | case3 letter rest notPair _ ih | case4 letter rest notPair _ ih =>
      rw [List.cons_append, replace_pair_other notPair, ← List.cons_append, List.cons_append,
        List.cons_append, ← ih]
      refine replace_pair_other fun others isReturn same => ?_
      cases rest with
      | nil => cases same
      | cons head tail =>
          obtain ⟨rfl, _⟩ := List.cons.inj same
          exact notPair tail isReturn rfl

/-- A carriage return that is left stood by itself. -/
theorem exists_of_replace_pairs {text first second : Text}
    (left : text.replace "\r\n" "\n" = first ++ '\r' :: second) :
    ∃ before after, text = before ++ '\r' :: after ∧ after.head? ≠ some '\n' ∧
      Text.replace before "\r\n" "\n" = first ∧
        Text.replace after "\r\n" "\n" = second := by
  induction text using splitLines.induct generalizing first with
  | case1 => cases first <;> cases left
  | case2 rest ih =>
      rw [replace_pair_cons] at left
      cases first with
      | nil => cases left
      | cons head others =>
          obtain ⟨rfl, inRest⟩ := List.cons.inj left
          obtain ⟨before, after, rfl, alone, rfl, rfl⟩ := ih inRest
          exact ⟨'\r' :: '\n' :: before, after, rfl, alone, replace_pair_cons before, rfl⟩
  | case3 letter rest notPair _ ih | case4 letter rest notPair _ ih =>
      rw [replace_pair_other notPair] at left
      cases first with
      | nil =>
          obtain ⟨rfl, rfl⟩ := List.cons.inj left
          refine ⟨[], rest, rfl, fun feed => ?_, rfl, rfl⟩
          obtain ⟨others, rfl⟩ := List.head?_eq_some_iff.mp feed
          exact notPair others rfl rfl
      | cons head others =>
          obtain ⟨rfl, inRest⟩ := List.cons.inj left
          obtain ⟨before, after, rfl, alone, rfl, rfl⟩ := ih inRest
          refine ⟨letter :: before, after, rfl, alone, replace_pair_other ?_, rfl⟩
          rintro more rfl rfl
          exact notPair _ rfl rfl

/-! ## Stripped texts -/

theorem mem_dropWhile_iff {drops : Char → Bool} {letter : Char} (dropped : drops letter = true)
    (text : Text) :
    letter ∈ text.dropWhile drops ↔
      ∃ first second, text = first ++ letter :: second ∧ ∃ other ∈ first, drops other = false := by
  induction text with
  | nil => simp
  | cons head rest ih =>
      rw [List.dropWhile_cons]
      split
      · next drop =>
          rw [ih]
          constructor
          · rintro ⟨first, second, rfl, other, member, kept⟩
            exact ⟨head :: first, second, rfl, other, List.mem_cons_of_mem _ member, kept⟩
          · rintro ⟨first, second, same, other, member, kept⟩
            cases first with
            | nil => cases member
            | cons _ first =>
                obtain ⟨rfl, rfl⟩ := List.cons.inj same
                refine ⟨first, second, rfl, other, ?_, kept⟩
                rcases List.mem_cons.mp member with rfl | inFirst
                · exact absurd drop (kept ▸ Bool.false_ne_true)
                · exact inFirst
      · next keep =>
          have unlike : letter ≠ head := fun same => keep (same ▸ dropped)
          rw [List.mem_cons, or_iff_right unlike]
          constructor
          · intro member
            obtain ⟨first, second, rfl⟩ := List.append_of_mem member
            exact ⟨head :: first, second, rfl, head, List.mem_cons_self, by simpa using keep⟩
          · rintro ⟨first, second, same, other, member, _⟩
            cases first with
            | nil => cases member
            | cons _ first =>
                obtain ⟨rfl, rfl⟩ := List.cons.inj same
                simp

theorem dropWhile_append_cons {drops : Char → Bool} {first : Text}
    (kept : ∃ other ∈ first, drops other = false) (rest : Text) :
    (first ++ rest).dropWhile drops = first.dropWhile drops ++ rest := by
  obtain ⟨other, member, keep⟩ := kept
  have filled : first.dropWhile drops ≠ [] := fun none => by
    have dropped := List.dropWhile_eq_nil_iff.mp none other member
    rw [keep] at dropped
    cases dropped
  rw [List.dropWhile_append, if_neg (by rwa [List.isEmpty_iff])]

/-- A blank stays if something that is not blank stands on either side of it. -/
theorem mem_strip_iff {letter : Char} (blank : isBlank letter = true) (text : Text) :
    letter ∈ text.strip ↔
      ∃ first second, text = first ++ letter :: second ∧
        (∃ other ∈ first, isBlank other = false) ∧ ∃ other ∈ second, isBlank other = false := by
  unfold strip stripEnd dropEnd
  rw [List.mem_reverse, mem_dropWhile_iff blank]
  constructor
  · rintro ⟨first, second, same, last⟩
    have left : text.dropWhile isBlank = second.reverse ++ letter :: first.reverse := by
      rw [← List.reverse_reverse (text.dropWhile isBlank)]
      exact (congrArg List.reverse same).trans (by simp)
    -- What is left begins with a letter that is not blank, so that letter is not the blank one.
    have head : ∃ other ∈ second.reverse, isBlank other = false := by
      have begins := List.head?_dropWhile_not isBlank text
      rw [left] at begins
      cases reversed : second.reverse with
      | nil =>
          rw [reversed] at begins
          exact absurd blank (by simpa using begins)
      | cons other _ =>
          rw [reversed] at begins
          exact ⟨other, List.mem_cons_self, by simpa using begins⟩
    refine ⟨text.takeWhile isBlank ++ second.reverse, first.reverse, ?_, ?_, ?_⟩
    · rw [List.append_assoc, ← left, List.takeWhile_append_dropWhile]
    · obtain ⟨other, member, keep⟩ := head
      exact ⟨other, List.mem_append_right _ member, keep⟩
    · obtain ⟨other, member, keep⟩ := last
      exact ⟨other, List.mem_reverse.mpr member, keep⟩
  · rintro ⟨first, second, rfl, start, other, member, keep⟩
    refine ⟨second.reverse, (first.dropWhile isBlank).reverse, ?_,
      other, List.mem_reverse.mpr member, keep⟩
    unfold stripStart
    rw [dropWhile_append_cons start, List.reverse_append, List.reverse_cons, List.append_assoc]
    rfl

/-- What is taken off the end is blank. -/
theorem stripEnd_append_takeWhile (text : Text) :
    text.stripEnd ++ (text.reverse.takeWhile isBlank).reverse = text := by
  unfold stripEnd dropEnd
  rw [← List.reverse_append, List.takeWhile_append_dropWhile, List.reverse_reverse]

/-! ## Joined lines -/

theorem join_consLine (separator : Text) (letter : Char) (lines : List Text) :
    join separator (consLine letter lines) = letter :: join separator lines := by
  match lines with
  | [] => rfl
  | [_] => rfl
  | _ :: _ :: _ => rfl

theorem join_nil_cons (separator : Text) (lines : List Text) (filled : lines ≠ []) :
    join separator ([] :: lines) = separator ++ join separator lines := by
  cases lines with
  | nil => exact absurd rfl filled
  | cons line others => rfl

/-- A letter of joined texts is one of the separator or of a text. -/
theorem exists_of_mem_join {separator : Text} {parts : List Text} {letter : Char}
    (member : letter ∈ join separator parts) :
    letter ∈ separator ∨ ∃ part ∈ parts, letter ∈ part := by
  fun_induction join separator parts with
  | case1 => cases member
  | case2 part => exact .inr ⟨part, List.mem_cons_self, member⟩
  | case3 part other rest ih =>
      rcases List.mem_append.mp member with here | inRest
      · rcases List.mem_append.mp here with inPart | between
        · exact .inr ⟨part, List.mem_cons_self, inPart⟩
        · exact .inl between
      · refine (ih inRest).imp_right ?_
        rintro ⟨found, listed, inFound⟩
        exact ⟨found, List.mem_cons_of_mem _ listed, inFound⟩

theorem isNotLineBreak_join {lines : List Text}
    (plain : ∀ line ∈ lines, ∀ letter ∈ line, isLineBreak letter = false) :
    ∀ letter ∈ join " " lines, isLineBreak letter = false := by
  intro letter member
  rcases exists_of_mem_join member with blank | ⟨line, listed, inLine⟩
  · rw [List.mem_singleton.mp blank]
    decide
  · exact plain line listed letter inLine

/-! ## Stretches -/

/-- A stretch is taken off a text as a whole, if what follows does not go on with it. -/
theorem takeWhile_append_of_stops {keeps : Char → Bool} {stretch rest : Text}
    (kept : ∀ letter ∈ stretch, keeps letter = true)
    (stops : ∀ letter ∈ rest.head?, keeps letter = false) :
    (stretch ++ rest).takeWhile keeps = stretch ∧ (stretch ++ rest).dropWhile keeps = rest := by
  rw [List.takeWhile_append_of_pos kept, List.dropWhile_append_of_pos kept]
  cases rest with
  | nil => exact ⟨List.append_nil stretch, rfl⟩
  | cons letter others =>
      have other := stops letter rfl
      simp [other]

/-- What follows the start of a text. -/
def afterStart? (start text : Text) : Option Text :=
  if text.startsWith start then some (text.drop start.length) else none

theorem afterStart?_append (start rest : Text) : afterStart? start (start ++ rest) = some rest := by
  have starts : Text.startsWith (start ++ rest) start = true :=
    List.isPrefixOf_iff_prefix.mpr (List.prefix_append start rest)
  rw [afterStart?, if_pos starts, List.drop_left]

theorem afterStart?_eq_none {letter first : Char} (apart : letter ≠ first) (start rest : Text) :
    afterStart? (first :: start) (letter :: rest) = none := by
  have other : Text.startsWith (letter :: rest) (first :: start) = false := by
    simp [Text.startsWith, List.isPrefixOf, ne_comm.mp apart]
  rw [afterStart?, other]
  rfl

theorem length_afterStart? {start text rest : Text} (found : afterStart? start text = some rest) :
    rest.length ≤ text.length := by
  unfold afterStart? at found
  split at found
  · rw [← Option.some.inj found, List.length_drop]
    exact Nat.sub_le ..
  · cases found

theorem holds_iff_isInfix {text part : Text} : text.holds part = true ↔ part <:+: text := by
  induction text with
  | nil => simp [Text.holds]
  | cons letter rest ih =>
      rw [Text.holds, Bool.or_eq_true, List.isPrefixOf_iff_prefix, ih, List.infix_cons_iff]

/-- The first line starts the text, and every line is a stretch of it. -/
theorem isInfix_of_mem_splitLines (text : Text) :
    (∀ line ∈ text.splitLines.head?, line <+: text) ∧ ∀ line ∈ text.splitLines, line <:+: text := by
  induction text using splitLines.induct with
  | case1 => exact ⟨by rintro _ ⟨⟩, by rintro _ ⟨⟩⟩
  | case2 rest ih =>
      refine ⟨fun line first => ?_, fun line member => ?_⟩
      · rw [← Option.some.inj first]
        exact List.nil_prefix
      · rcases List.mem_cons.mp member with rfl | inRest
        · exact List.nil_infix
        · exact (ih.2 line inRest).trans ((List.suffix_append ['\r', '\n'] rest).isInfix)
  | case3 letter rest notPair isBreak ih =>
      rw [splitLines.eq_3 _ _ notPair, if_pos isBreak]
      refine ⟨fun line first => ?_, fun line member => ?_⟩
      · rw [← Option.some.inj first]
        exact List.nil_prefix
      · rcases List.mem_cons.mp member with rfl | inRest
        · exact List.nil_infix
        · exact List.infix_cons (ih.2 line inRest)
  | case4 letter rest notPair noBreak ih =>
      rw [splitLines.eq_3 _ _ notPair, if_neg noBreak]
      cases lines : splitLines rest with
      | nil =>
          have short : [letter] <+: letter :: rest := ⟨rest, rfl⟩
          exact ⟨fun line first => Option.some.inj first ▸ short,
            fun line member => List.mem_singleton.mp member ▸ short.isInfix⟩
      | cons line others =>
          rw [lines] at ih
          have longer : letter :: line <+: letter :: rest :=
            (List.prefix_cons_inj letter).mpr (ih.1 line rfl)
          refine ⟨fun line first => Option.some.inj first ▸ longer, fun other member => ?_⟩
          rcases List.mem_cons.mp member with rfl | inOthers
          · exact longer.isInfix
          · exact List.infix_cons (ih.2 other (List.mem_cons_of_mem _ inOthers))

theorem isPrefix_stripEnd (text : Text) : text.stripEnd <+: text :=
  ⟨_, stripEnd_append_takeWhile text⟩

end ApiForge.Text

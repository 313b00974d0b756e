import ApiForge.Proofs.Text.Stretches
import ApiForge.TypeScript.Comment
import Mathlib.Data.List.Chain

/-!
# Marks of comments

A comment ends at the first end mark after its opening. A documentation comment
has the one that it is meant to have, whatever its text is: marks inside the
text are broken up, and cutting a text into lines makes none. So nothing of the
text gets into the code around it.
-/

namespace ApiForge.TypeScript

/-- What stands after the first end mark. -/
def afterMark? : Text → Option Text
  | [] => none
  | '*' :: '/' :: rest => some rest
  | _ :: rest => afterMark? rest

/-- No end mark stands in the text. -/
def HoldsNoMark (text : Text) : Prop :=
  text.IsChain fun first second => first = '*' → second ≠ '/'

/-- A text without end marks is passed over as a whole. -/
theorem afterMark?_append {text : Text} (unmarked : HoldsNoMark text) (rest : Text) :
    afterMark? (text ++ '*' :: '/' :: rest) = some rest := by
  induction text with
  | nil => rfl
  | cons letter others ih =>
      obtain ⟨apart, inOthers⟩ := List.isChain_cons.mp unmarked
      rw [List.cons_append, afterMark?]
      · exact ih inOthers
      · intro after star slash
        cases others with
        | nil => exact absurd (List.cons.inj slash).1 (by decide)
        | cons next _ => exact apart next rfl star (List.cons.inj slash).1

theorem holdsNoMark_nil : HoldsNoMark [] :=
  List.isChain_nil

theorem holdsNoMark_cons {letter : Char} {text : Text} (other : letter ≠ '*')
    (unmarked : HoldsNoMark text) : HoldsNoMark (letter :: text) :=
  List.isChain_cons.mpr ⟨fun _ _ same => absurd same other, unmarked⟩

/-- Another letter keeps what stands on either side of it apart. -/
theorem holdsNoMark_append_cons {first second : Text} {letter : Char}
    (other : letter ≠ '*' ∧ letter ≠ '/') (inFirst : HoldsNoMark first)
    (inSecond : HoldsNoMark second) : HoldsNoMark (first ++ letter :: second) := by
  refine List.isChain_append.mpr ⟨inFirst, holdsNoMark_cons other.1 inSecond, ?_⟩
  intro _ _ next begins _ same
  obtain rfl := Option.some.inj begins
  exact other.2 same

/-- Blanks make no end mark with what follows them. -/
theorem holdsNoMark_afterBlanks {pad rest : Text} (blank : ∀ letter ∈ pad, isBlank letter = true)
    (unmarked : HoldsNoMark rest) : HoldsNoMark (pad ++ rest) := by
  induction pad with
  | nil => exact unmarked
  | cons letter others ih =>
      have other : letter ≠ '*' := by
        rintro rfl
        exact absurd (blank '*' List.mem_cons_self) (by decide)
      exact holdsNoMark_cons other (ih fun next member =>
        blank next (List.mem_cons_of_mem _ member))

theorem holdsNoMark_star : HoldsNoMark ['*'] :=
  List.isChain_singleton _

/-- A star at the end makes no end mark with what stands before it. -/
theorem holdsNoMark_append_star {text : Text} (unmarked : HoldsNoMark text) :
    HoldsNoMark (text ++ ['*']) := by
  refine List.isChain_append.mpr ⟨unmarked, holdsNoMark_star, ?_⟩
  intro _ _ next begins _
  obtain rfl := Option.some.inj begins
  decide

/-- The end marks in a text are broken up, also where part of it is replaced already. -/
theorem holdsNoMark_replaceAfter (skip : Nat) (text : Text) :
    HoldsNoMark (Text.replaceAfter "*/" "*\\/" skip text) := by
  fun_induction Text.replaceAfter "*/".toList "*\\/".toList skip text with
  | case1 => exact holdsNoMark_nil
  | case2 _ _ _ ih => exact ih
  | case3 letter rest marked ih =>
      have broken : HoldsNoMark ('/' :: Text.replaceAfter "*/" "*\\/" 1 rest) :=
        holdsNoMark_cons (by decide) ih
      exact holdsNoMark_append_cons ⟨by decide, by decide⟩ holdsNoMark_star broken
  | case4 letter rest unmarked ih =>
      refine List.isChain_cons.mpr ⟨?_, ih⟩
      rintro next begins rfl rfl
      -- A slash comes first in what is left only if it came first before.
      cases rest with
      | nil => cases begins
      | cons first others =>
          rw [Text.replaceAfter] at begins
          split at begins
          · cases begins
          · obtain rfl := Option.some.inj begins
            exact unmarked rfl

theorem holdsNoMark_lines {lines : List Text} (each : ∀ line ∈ lines, HoldsNoMark line) :
    HoldsNoMark (Text.lines lines) := by
  unfold Text.lines
  fun_induction Text.join ['\n'] lines with
  | case1 => exact holdsNoMark_nil
  | case2 line => exact each line List.mem_cons_self
  | case3 line other rest ih =>
      rw [List.append_assoc]
      exact holdsNoMark_append_cons ⟨by decide, by decide⟩ (each line List.mem_cons_self)
        (ih fun next member => each next (List.mem_cons_of_mem _ member))

/-! ## Comments -/

theorem holdsNoMark_commentLine {pad line : Text} (blank : ∀ letter ∈ pad, isBlank letter = true)
    (unmarked : HoldsNoMark line) : HoldsNoMark (commentLine pad line) := by
  have starred : HoldsNoMark (['*'] ++ ' ' :: line) :=
    holdsNoMark_append_cons ⟨by decide, by decide⟩ holdsNoMark_star unmarked
  have whole : HoldsNoMark (pad ++ ' ' :: (['*'] ++ ' ' :: line)) :=
    holdsNoMark_afterBlanks blank (holdsNoMark_cons (by decide) starred)
  rw [commentLine]
  refine List.IsChain.prefix ?_ (Text.isPrefix_stripEnd _)
  rwa [List.append_assoc]

/-- A comment is one for every reader: between its opening and its end mark stands no other one. -/
theorem exists_comment_eq {pad : Text} (blank : ∀ letter ∈ pad, isBlank letter = true)
    (text : Text) :
    ∃ inner, comment pad text = pad ++ '/' :: '*' :: ('*' :: inner ++ ['*', '/']) ∧
      HoldsNoMark ('*' :: inner) := by
  have each (line : Text)
      (member : line ∈ (text.strip.replace "*/" "*\\/").splitLines) : HoldsNoMark line :=
    List.IsChain.infix (holdsNoMark_replaceAfter 0 text.strip)
      ((Text.isInfix_of_mem_splitLines _).2 line member)
  -- What follows the opening begins with a blank or a line feed, so the star makes no mark with it.
  have opened {letter : Char} {rest : Text} (other : letter ≠ '*' ∧ letter ≠ '/')
      (unmarked : HoldsNoMark rest) : HoldsNoMark ('*' :: letter :: rest) :=
    holdsNoMark_append_cons other holdsNoMark_star unmarked
  have last : HoldsNoMark [' '] := holdsNoMark_cons (by decide) holdsNoMark_nil
  unfold comment
  split
  · exact ⟨[' ', ' '], rfl, opened ⟨by decide, by decide⟩ last⟩
  · next line only =>
      refine ⟨' ' :: (line ++ [' ']), by simp, opened ⟨by decide, by decide⟩ ?_⟩
      exact holdsNoMark_append_cons ⟨by decide, by decide⟩
        (each line (only ▸ List.mem_singleton_self line)) holdsNoMark_nil
  · refine ⟨'\n' :: (Text.lines ((text.strip.replace "*/" "*\\/").splitLines.map
      (commentLine pad)) ++ '\n' :: (pad ++ [' '])), by simp, opened ⟨by decide, by decide⟩ ?_⟩
    refine holdsNoMark_append_cons ⟨by decide, by decide⟩ (holdsNoMark_lines ?_)
      (holdsNoMark_afterBlanks blank last)
    intro shown member
    obtain ⟨line, inText, rfl⟩ := List.mem_map.mp member
    exact holdsNoMark_commentLine blank (each line inText)

/-! ## The one end mark -/

/-- An end mark stands at the end of the text and nowhere else. -/
structure EndsInOnlyMark (text : Text) : Prop where
  atEnd : ['*', '/'] <:+ text
  nowhereElse : ∀ before after, text = before ++ '*' :: '/' :: after → after = []

theorem not_holdsNoMark_mark (before after : Text) :
    ¬ HoldsNoMark (before ++ '*' :: '/' :: after) := by
  intro unmarked
  have mark := (List.isChain_append.mp unmarked).2.1
  exact (List.isChain_cons_cons.mp mark).1 rfl rfl

theorem endsInOnlyMark_append {text : Text} (unmarked : HoldsNoMark (text ++ ['*'])) :
    EndsInOnlyMark (text ++ ['*', '/']) where
  atEnd := List.suffix_append text _
  nowhereElse := by
    intro before after same
    rcases List.eq_nil_or_concat after with none | ⟨rest, letter, rfl⟩
    · exact none
    · have cut : (text ++ ['*']) ++ ['/'] = (before ++ '*' :: '/' :: rest) ++ [letter] := by
        simpa using same
      rw [(List.append_inj' cut rfl).1] at unmarked
      exact absurd unmarked (not_holdsNoMark_mark before rest)

/-- What a reader of code goes on with after blanks and a comment. -/
def afterComment? (text : Text) : Option Text :=
  (Text.afterStart? ['/', '*'] (text.dropWhile isBlank)).bind afterMark?

/-- A comment after blanks opens right after them, and its end mark is at its end and nowhere else,
whatever its text is. So a reader goes on with the code that follows it, and with none of its
text. -/
theorem endsInOnlyMark_comment {pad : Text} (blank : ∀ letter ∈ pad, isBlank letter = true)
    (text : Text) :
    pad ++ "/**".toList <+: comment pad text ∧ EndsInOnlyMark (comment pad text) ∧
      ∀ code, afterComment? (comment pad text ++ code) = some code := by
  obtain ⟨inner, spelled, unmarked⟩ := exists_comment_eq blank text
  rw [spelled]
  refine ⟨⟨inner ++ ['*', '/'], by simp⟩, ?_, fun code => ?_⟩
  · have opened : HoldsNoMark ('/' :: '*' :: '*' :: inner ++ ['*']) :=
      holdsNoMark_cons (by decide)
        (List.isChain_cons_cons.mpr ⟨by decide, holdsNoMark_append_star unmarked⟩)
    have whole : EndsInOnlyMark ((pad ++ '/' :: '*' :: '*' :: inner) ++ ['*', '/']) :=
      endsInOnlyMark_append (by simpa using holdsNoMark_afterBlanks blank opened)
    simpa using whole
  · have parts : pad ++ '/' :: '*' :: ('*' :: inner ++ ['*', '/']) ++ code =
        pad ++ (['/', '*'] ++ ('*' :: inner ++ '*' :: '/' :: code)) := by simp
    rw [afterComment?, parts, List.dropWhile_append_of_pos blank, List.cons_append,
      List.dropWhile_cons_of_neg (by decide), ← List.cons_append, Text.afterStart?_append]
    exact afterMark?_append unmarked code

/-- A mark in this text is broken up, and the star at the end of its first line makes none with the
slash after the line break. -/
theorem endsInOnlyMark_comment_of_marks :
    (∀ letter ∈ "  ".toList, isBlank letter = true) ∧
      comment "  " "Ends *\u2028/ or **/" = "  /**\n   * Ends *\n   * / or **\\/\n   */".toList ∧
      "  /**".toList <+: comment "  " "Ends *\u2028/ or **/" ∧
      EndsInOnlyMark (comment "  " "Ends *\u2028/ or **/") ∧
      ∀ code, afterComment? (comment "  " "Ends *\u2028/ or **/" ++ code) = some code := by
  have blank : ∀ letter ∈ "  ".toList, isBlank letter = true := List.all_eq_true.mp (by decide)
  exact ⟨blank, by decide, endsInOnlyMark_comment blank _⟩

end ApiForge.TypeScript

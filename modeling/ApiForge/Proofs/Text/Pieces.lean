import ApiForge.Proofs.Text.Stretches

/-!
# Pieces between separators

A text is cut at every occurrence of a separator: the pieces have letters of the
text only and no separator, and there is one piece more than separators. Texts
joined with the separator are cut into the pieces of each of them, and so are
lines that all end in a line feed.
-/

namespace ApiForge.Text

variable {separator : Char}

/-- A letter of a piece is one of the text that is no separator. -/
theorem of_mem_splitOn {text piece : Text} (listed : piece ∈ List.splitOn separator text)
    {letter : Char} (member : letter ∈ piece) : letter ≠ separator ∧ letter ∈ text := by
  induction text generalizing piece with
  | nil =>
      rw [List.splitOn_nil, List.mem_singleton] at listed
      rw [listed] at member
      cases member
  | cons head rest ih =>
      have later {piece : Text} (listed : piece ∈ List.splitOn separator rest)
          (member : letter ∈ piece) : letter ≠ separator ∧ letter ∈ head :: rest :=
        (ih listed member).imp_right (List.mem_cons_of_mem head)
      rw [List.splitOn_cons_eq_if_modifyHead] at listed
      split at listed
      · rcases List.mem_cons.mp listed with rfl | inRest
        · cases member
        · exact later inRest member
      · next other =>
          obtain ⟨first, others, pieces⟩ :=
            List.exists_cons_of_ne_nil (List.splitOn_ne_nil separator rest)
          rw [pieces, List.modifyHead_cons] at listed
          rcases List.mem_cons.mp listed with rfl | inRest
          · rcases List.mem_cons.mp member with rfl | inFirst
            · exact ⟨mt beq_iff_eq.mpr other, List.mem_cons_self⟩
            · exact later (pieces ▸ List.mem_cons_self) inFirst
          · exact later (pieces ▸ List.mem_cons_of_mem _ inRest) member

theorem not_mem_of_mem_splitOn {text piece : Text}
    (listed : piece ∈ List.splitOn separator text) : separator ∉ piece :=
  fun member => (of_mem_splitOn listed member).1 rfl

theorem length_splitOn (text : Text) :
    (List.splitOn separator text).length = text.count separator + 1 := by
  induction text with
  | nil => rfl
  | cons letter rest ih =>
      rw [List.splitOn_cons_eq_if_modifyHead, List.count_cons]
      split
      · rw [List.length_cons, ih]
      · rw [List.length_modifyHead, ih]

/-- Texts without separators are whole pieces. -/
theorem flatMap_splitOn_of_not_mem {parts : List Text}
    (whole : ∀ part ∈ parts, separator ∉ part) :
    parts.flatMap (List.splitOn separator) = parts := by
  rw [List.flatMap_congr fun part member => List.splitOn_eq_singleton (whole part member),
    List.flatMap_singleton']

theorem join_append_cons (between first second : Text) (rest : List Text) :
    join between ((first ++ second) :: rest) = first ++ join between (second :: rest) := by
  cases rest with
  | nil => rfl
  | cons other rest => simp [join]

/-- Each joined text but the first follows a separator and what comes with it. -/
theorem splitOn_join (pad first : Text) (rest : List Text) :
    List.splitOn separator (join (separator :: pad) (first :: rest)) =
      List.splitOn separator first ++
        rest.flatMap fun part => List.splitOn separator (pad ++ part) := by
  induction rest generalizing first with
  | nil => simp [join]
  | cons other rest ih =>
      have cut : join (separator :: pad) (first :: other :: rest) =
          first ++ separator :: join (separator :: pad) ((pad ++ other) :: rest) := by
        rw [join, join_append_cons, List.append_assoc, List.cons_append]
      rw [cut, List.splitOn_append_cons_self, ih, List.flatMap_cons]

/-! ## Lines ended by line feeds -/

/-- The lines that end in a line feed. -/
def feedLines (text : Text) : List Text :=
  (List.splitOn '\n' text).dropLast

/-- The lines of ended lines are the pieces of each of them. -/
theorem feedLines_ended (lines : List Text) :
    feedLines (ended lines) = lines.flatMap (List.splitOn '\n') := by
  have pieces : List.splitOn '\n' (ended lines) = lines.flatMap (List.splitOn '\n') ++ [[]] := by
    induction lines with
    | nil => rfl
    | cons line rest ih =>
        have cut : ended (line :: rest) = line ++ '\n' :: ended rest := by simp [ended]
        rw [cut, List.splitOn_append_cons_self, ih, List.flatMap_cons, List.append_assoc]
  rw [feedLines, pieces, List.dropLast_concat]

end ApiForge.Text

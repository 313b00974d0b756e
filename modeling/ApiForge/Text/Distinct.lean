import ApiForge.Text.Basic

/-!
# Distinct texts

The first occurrences of a list of texts, in order.
-/

namespace ApiForge

namespace Text

/-- The texts in the order of their first occurrences. -/
def distinct : List Text → List Text
  | [] => []
  | text :: rest => text :: (distinct rest).filter (· != text)

theorem mem_distinct {text : Text} {texts : List Text} :
    text ∈ distinct texts ↔ text ∈ texts := by
  induction texts with
  | nil => simp [distinct]
  | cons first rest ih =>
      by_cases same : text = first <;> simp [distinct, ih, same]

theorem distinct_nodup (texts : List Text) : (distinct texts).Nodup := by
  induction texts with
  | nil => simp [distinct]
  | cons first rest ih =>
      simp only [distinct, List.nodup_cons, List.mem_filter]
      exact ⟨by simp, ih.filter _⟩

/-- A new text is the last of the first occurrences. -/
theorem distinct_concat_of_not_mem {text : Text} {texts : List Text} (unmet : text ∉ texts) :
    distinct (texts ++ [text]) = distinct texts ++ [text] := by
  induction texts with
  | nil => rfl
  | cons first rest ih =>
      rw [List.mem_cons, not_or] at unmet
      rw [List.cons_append, distinct, distinct, ih unmet.2, List.filter_append]
      simp [unmet.1]

/-- A text that occurs already is none of the first occurrences. -/
theorem distinct_concat_of_mem {text : Text} {texts : List Text} (met : text ∈ texts) :
    distinct (texts ++ [text]) = distinct texts := by
  induction texts with
  | nil => cases met
  | cons first rest ih =>
      rw [List.cons_append, distinct, distinct]
      by_cases later : text ∈ rest
      · rw [ih later]
      · obtain rfl := (List.mem_cons.mp met).resolve_right later
        rw [distinct_concat_of_not_mem later, List.filter_append]
        simp

/-- Looking for a text with some property finds the same one among the first occurrences. -/
theorem find?_distinct (wanted : Text → Bool) (texts : List Text) :
    (distinct texts).find? wanted = texts.find? wanted := by
  induction texts with
  | nil => rfl
  | cons first rest ih =>
      rw [distinct]
      by_cases here : wanted first = true
      · rw [List.find?_cons_of_pos here, List.find?_cons_of_pos here]
      · rw [List.find?_cons_of_neg here, List.find?_cons_of_neg here, List.find?_filter, ← ih]
        congr 1
        funext text
        by_cases same : text = first <;> simp [same, here]

end Text

end ApiForge

import ApiForge.Text.Basic
import Mathlib.Data.List.Basic

/-!
# The order of texts

Texts are ordered by the code points of their letters. The order is total, so
values sorted by distinct texts are in the strict order of these.
-/

namespace ApiForge.Text

variable {first second third : Text}

theorem isBefore_cons (letter other : Char) (rest tail : Text) :
    isBefore (letter :: rest) (other :: tail) = true ↔
      letter.toNat < other.toNat ∨ letter = other ∧ isBefore rest tail = true := by
  rw [isBefore]
  by_cases same : letter = other
  · simp [same]
  · simp [same]

theorem isBefore_trans (one : isBefore first second = true) (other : isBefore second third = true) :
    isBefore first third = true := by
  induction first generalizing second third with
  | nil =>
      cases second with
      | nil => cases one
      | cons => cases third with
          | nil => cases other
          | cons => rfl
  | cons letter first ih =>
      rcases second with _ | ⟨middle, second⟩
      · cases one
      rcases third with _ | ⟨last, third⟩
      · cases other
      rw [isBefore_cons] at one other ⊢
      rcases one with less | ⟨rfl, one⟩ <;> rcases other with more | ⟨rfl, other⟩
      · exact .inl (Nat.lt_trans less more)
      · exact .inl less
      · exact .inl more
      · exact .inr ⟨rfl, ih one other⟩

theorem isBefore_irrefl (text : Text) : isBefore text text = false := by
  induction text with
  | nil => rfl
  | cons letter rest ih => rw [isBefore, if_pos rfl, ih]

theorem isBefore_total (apart : first ≠ second) :
    isBefore first second = true ∨ isBefore second first = true := by
  induction first generalizing second with
  | nil =>
      cases second with
      | nil => exact absurd rfl apart
      | cons => exact .inl rfl
  | cons letter first ih =>
      cases second with
      | nil => exact .inr rfl
      | cons other second =>
          rw [isBefore_cons, isBefore_cons]
          by_cases same : letter = other
          · subst same
            exact (ih fun equal => apart (congrArg _ equal)).imp (fun one => .inr ⟨rfl, one⟩)
              fun one => .inr ⟨rfl, one⟩
          · have numbers : letter.toNat ≠ other.toNat := fun equal => same (Char.toNat_inj.mp equal)
            rcases Nat.lt_or_gt_of_ne numbers with less | more
            · exact .inl (.inl less)
            · exact .inr (.inl more)

section

variable {α : Type} (key : α → Text) (values : List α)

theorem mem_sortBy {value : α} : value ∈ sortBy key values ↔ value ∈ values :=
  (List.mergeSort_perm values _).mem_iff

/-- No value comes after one with a later key. -/
theorem pairwise_sortBy :
    (sortBy key values).Pairwise fun one other => isBefore (key other) (key one) = false := by
  refine (List.pairwise_mergeSort ?_ ?_ values).imp fun ordered => by simpa using ordered
  · intro one other last early late
    simp only [Bool.not_eq_true'] at early late ⊢
    rw [Bool.eq_false_iff] at early late ⊢
    intro before
    by_cases same : key other = key last
    · exact early (same ▸ before)
    · exact (isBefore_total same).elim (fun less => early (isBefore_trans less before)) late
  · intro one other
    cases late : isBefore (key other) (key one) with
    | false => rfl
    | true =>
        cases early : isBefore (key one) (key other) with
        | false => rfl
        | true =>
            have same := isBefore_trans late early
            rw [isBefore_irrefl] at same
            cases same

/-- Values with distinct keys come in the strict order of these. -/
theorem pairwise_sortBy_of_nodup (distinct : (values.map key).Nodup) :
    (sortBy key values).Pairwise fun one other => isBefore (key one) (key other) = true := by
  have apart : (sortBy key values).Pairwise fun one other => key one ≠ key other :=
    List.pairwise_map.mp (((List.mergeSort_perm values _).map key).nodup_iff.mpr distinct)
  refine ((pairwise_sortBy key values).and apart).imp fun ⟨ordered, apart⟩ => ?_
  exact (isBefore_total apart).resolve_right (by rw [ordered]; exact Bool.false_ne_true)

end

end ApiForge.Text

import ApiForge.Proofs.Reference.Places
import ApiForge.Proofs.Success
import Mathlib.Data.List.Induction

/-!
# Runs of the expansion

What the expansion does at one value, given the references in progress: a
reference that is not in progress is replaced by the expansion of its target, a
reference in progress stays, and every other value is copied with its children
expanded. From these steps follow the values that a run comes to, each with the
place of the result it is expanded for.
-/

namespace ApiForge.Reference

variable {root : Value} {active : List Text}

/-! ## References in progress -/

/-- The references of a document that are not in progress. -/
def remaining (root : Value) (active : List Text) : List Text :=
  (distinctIn root).filter fun reference => !active.contains reference

theorem mem_remaining {reference : Text} :
    reference ∈ remaining root active ↔ reference ∈ all root ∧ reference ∉ active := by
  simp [remaining, distinctIn, Text.mem_distinct]

theorem remaining_erase (root : Value) (active : List Text) (reference : Text) :
    (remaining root active).erase reference = remaining root (reference :: active) := by
  have distinct : (remaining root active).Nodup := (Text.distinct_nodup _).filter _
  rw [distinct.erase_eq_filter, remaining, remaining, List.filter_filter]
  refine List.filter_congr fun other _ => ?_
  by_cases same : other = reference <;> simp [same]

/-- The expansion of a value while the references `active` are in progress. -/
def expandIn (root : Value) (active : List Text) (value : Value) : Except Failure Value :=
  expandFrom root (remaining root active) value

theorem expand_eq (root : Value) : expand root = expandIn root [] root := by
  simp [expand, expandIn, remaining]

/-! ## One step -/

/-- What stands in the result for a mapping that stands for a reference. -/
def inPlaceOf (root : Value) (pending : List Text) (reference : Text) (entries : Entries) :
    Except Failure Value :=
  if pending.contains reference then
    target root reference >>= expandFrom root (pending.erase reference)
  else .ok (.map entries)

theorem expandFrom_eq (root : Value) (pending : List Text) (value : Value) :
    expandFrom root pending value = mapReferences (inPlaceOf root pending) value := by
  rw [expandFrom]
  congr 1
  funext reference entries
  simp only [inPlaceOf, List.contains_iff_mem]
  by_cases member : reference ∈ pending
  · simp only [member, if_true, dif_pos]
    cases target root reference <;> rfl
  · simp [member]

theorem expandIn_of_active {entries : Entries} {reference : Text}
    (stands : ofEntries? entries = some reference) (inProgress : reference ∈ active) :
    expandIn root active (.map entries) = .ok (.map entries) := by
  have absent : reference ∉ remaining root active := fun member =>
    (mem_remaining.mp member).2 inProgress
  simp [expandIn, expandFrom_eq, mapReferences, stands, inPlaceOf, absent]

theorem expandIn_of_fresh {entries : Entries} {reference : Text}
    (stands : ofEntries? entries = some reference) (inDocument : reference ∈ all root)
    (fresh : reference ∉ active) :
    expandIn root active (.map entries) =
      target root reference >>= expandIn root (reference :: active) := by
  have member : reference ∈ remaining root active := mem_remaining.mpr ⟨inDocument, fresh⟩
  simp only [expandIn, expandFrom_eq root (remaining root active), mapReferences, stands,
    inPlaceOf, List.contains_iff_mem, member, if_true, remaining_erase]
  rfl

theorem of_mapItems {follow : Text → Entries → Except Failure Value} {items copies : List Value}
    (success : mapItems follow items = .ok copies) :
    List.Forall₂ (fun item copy => mapReferences follow item = .ok copy) items copies := by
  induction items generalizing copies with
  | nil =>
      cases success
      exact .nil
  | cons item rest ih =>
      obtain ⟨first, here, success⟩ := Success.of_bind success
      obtain ⟨others, there, success⟩ := Success.of_bind success
      cases success
      exact .cons here (ih there)

theorem of_mapEntries {follow : Text → Entries → Except Failure Value} {entries copies : Entries}
    (success : mapEntries follow entries = .ok copies) :
    entries.map (·.1) = copies.map (·.1) ∧
      List.Forall₂ (fun value copy => mapReferences follow value = .ok copy)
        (entries.map (·.2)) (copies.map (·.2)) := by
  induction entries generalizing copies with
  | nil =>
      cases success
      exact ⟨rfl, .nil⟩
  | cons entry rest ih =>
      obtain ⟨first, here, success⟩ := Success.of_bind success
      obtain ⟨others, there, success⟩ := Success.of_bind success
      cases success
      obtain ⟨keys, values⟩ := ih there
      exact ⟨congrArg (List.cons entry.1) keys, .cons here values⟩

/-- The two values have the same keys in the same order, have equally many items, or are equal. -/
def IsAlike : Value → Value → Prop
  | .map first, .map second => first.map (·.1) = second.map (·.1)
  | .list first, .list second => first.length = second.length
  | first, second => first = second

theorem rel_getElem? {α β : Type} {related : α → β → Prop} {first : List α} {second : List β}
    (pairs : List.Forall₂ related first second) (position : Nat) :
    Option.Rel related first[position]? second[position]? := by
  induction pairs generalizing position with
  | nil => exact .none
  | cons here _ ih =>
      cases position with
      | zero => exact .some here
      | succ position => exact ih position

/-- A value that stands for no reference is copied, with its children expanded. -/
theorem copy_of_expandIn {value copy : Value} (plain : ofValue? value = none)
    (success : expandIn root active value = .ok copy) :
    IsAlike value copy ∧ ∀ position,
      Option.Rel (fun inner expanded => expandIn root active inner = .ok expanded)
        (value.child? position) (copy.child? position) := by
  simp only [expandIn, expandFrom_eq] at success ⊢
  cases value with
  | map entries =>
      have none : ofEntries? entries = none := plain
      simp only [mapReferences, none] at success
      obtain ⟨copies, traversed, rfl⟩ := Success.of_map success
      obtain ⟨keys, values⟩ := of_mapEntries traversed
      refine ⟨keys, fun position => ?_⟩
      have children := rel_getElem? values position
      rwa [List.getElem?_map, List.getElem?_map] at children
  | list items =>
      simp only [mapReferences] at success
      obtain ⟨copies, traversed, rfl⟩ := Success.of_map success
      have values := of_mapItems traversed
      exact ⟨values.length_eq, rel_getElem? values⟩
  | _ =>
      cases success
      exact ⟨rfl, fun _ => .none⟩

theorem exists_expanded_child {value copy inner : Value} {position : Nat}
    (plain : ofValue? value = none)
    (success : expandIn root active value = .ok copy)
    (child : value.child? position = some inner) :
    ∃ expanded, expandIn root active inner = .ok expanded ∧
      copy.child? position = some expanded := by
  have children := (copy_of_expandIn plain success).2 position
  rw [child] at children
  cases copied : copy.child? position with
  | none => simp [copied] at children
  | some expanded => exact ⟨expanded, by simpa [copied] using children, rfl⟩

theorem exists_original_child {value copy expanded : Value} {position : Nat}
    (plain : ofValue? value = none)
    (success : expandIn root active value = .ok copy)
    (child : copy.child? position = some expanded) :
    ∃ inner, value.child? position = some inner ∧ expandIn root active inner = .ok expanded := by
  have children := (copy_of_expandIn plain success).2 position
  rw [child] at children
  cases original : value.child? position with
  | none => simp [original] at children
  | some inner => exact ⟨inner, rfl, by simpa [original] using children⟩

/-! ## Runs -/

/--
The expansion of the document `root` comes to a value of the document, at a
place of the result, while the references `active` are in progress.
-/
inductive Reaches (root : Value) : Place → List Text → Value → Prop
  | start : Reaches root [] [] root
  | follow {place : Place} {active : List Text} {entries : Entries} {reference : Text}
      {found : Value} (reached : Reaches root place active (.map entries))
      (stands : ofEntries? entries = some reference) (fresh : reference ∉ active)
      (leads : target root reference = .ok found) :
      Reaches root place (reference :: active) found
  | enter {place : Place} {active : List Text} {value inner : Value} {position : Nat}
      (reached : Reaches root place active value) (plain : ofValue? value = none)
      (child : value.child? position = some inner) :
      Reaches root (place ++ [position]) active inner

/-- The place lies inside what stands in the result for a mapping with this reference. -/
def IsInside (root : Value) (reference : Text) (place : Place) : Prop :=
  ∃ above active entries, above <+: place ∧ Reaches root above active (.map entries) ∧
    ofEntries? entries = some reference ∧ reference ∉ active

theorem Reaches.exists_inner? {place : Place} {value : Value}
    (reached : Reaches root place active value) :
    ∃ origin, root.inner? origin = some value := by
  induction reached with
  | start => exact ⟨[], rfl⟩
  | follow _ _ _ leads => exact exists_inner?_of_target leads
  | @enter _ _ value inner position _ _ child ih =>
      obtain ⟨origin, there⟩ := ih
      exact ⟨origin ++ [position], by rw [Value.inner?_concat, there]; exact child⟩

theorem Reaches.mem_all {place : Place} {entries : Entries} {reference : Text}
    (reached : Reaches root place active (.map entries))
    (stands : ofEntries? entries = some reference) : reference ∈ all root := by
  obtain ⟨origin, there⟩ := reached.exists_inner?
  exact mem_all_of_inner? there (mem_all_of_ofEntries? stands)

theorem Reaches.isInside {place : Place} {value : Value}
    (reached : Reaches root place active value) {reference : Text}
    (inProgress : reference ∈ active) : IsInside root reference place := by
  induction reached with
  | start => cases inProgress
  | @follow place active entries latest found reached stands fresh leads ih =>
      rcases List.mem_cons.mp inProgress with rfl | before
      · exact ⟨place, active, entries, List.prefix_rfl, reached, stands, fresh⟩
      · exact ih before
  | @enter place active value inner position _ _ _ ih =>
      obtain ⟨above, before, entries, upTo, followed⟩ := ih inProgress
      exact ⟨above, before, entries, upTo.trans (List.prefix_append place [position]), followed⟩

/-- A value that a run comes to has its expansion at its place of the result. -/
theorem Reaches.expanded {result : Value} (success : expand root = .ok result) {place : Place}
    {value : Value} (reached : Reaches root place active value) :
    ∃ expanded, expandIn root active value = .ok expanded ∧
      result.inner? place = some expanded := by
  induction reached with
  | start => exact ⟨result, expand_eq root ▸ success, rfl⟩
  | follow reached stands fresh leads ih =>
      obtain ⟨expanded, computed, there⟩ := ih
      rw [expandIn_of_fresh stands (reached.mem_all stands) fresh, leads] at computed
      exact ⟨expanded, computed, there⟩
  | @enter place active value inner position reached plain child ih =>
      obtain ⟨copy, computed, there⟩ := ih
      obtain ⟨expanded, here, copied⟩ := exists_expanded_child plain computed child
      exact ⟨expanded, here, by rw [Value.inner?_concat, there]; exact copied⟩

/-- A value at which the expansion follows no reference. -/
def IsSettled (active : List Text) (value : Value) : Prop :=
  ∀ reference, ofValue? value = some reference → reference ∈ active

/-- From every value that a run comes to, it follows references up to a settled value. -/
theorem Reaches.exists_settled {place : Place} {active : List Text} {value expanded : Value}
    (reached : Reaches root place active value)
    (computed : expandIn root active value = .ok expanded) :
    ∃ active value, Reaches root place active value ∧
      expandIn root active value = .ok expanded ∧ IsSettled active value := by
  by_cases settled : IsSettled active value
  · exact ⟨active, value, reached, computed, settled⟩
  · simp only [IsSettled, not_forall] at settled
    obtain ⟨reference, stands, fresh⟩ := settled
    cases value with
    | map entries =>
        have inDocument := reached.mem_all stands
        rw [expandIn_of_fresh stands inDocument fresh] at computed
        obtain ⟨found, leads, computed⟩ := Success.of_bind computed
        have fewer : (remaining root (reference :: active)).length
            < (remaining root active).length :=
          remaining_erase root active reference ▸
            length_erase_lt (mem_remaining.mpr ⟨inDocument, fresh⟩)
        exact (reached.follow stands fresh leads).exists_settled computed
    | _ => cases stands
termination_by (remaining root active).length

/-- What a place of the result holds is the expansion of a settled value the run comes to. -/
theorem exists_reaches {result : Value} (success : expand root = .ok result) {place : Place}
    {expanded : Value} (there : result.inner? place = some expanded)
    (outermost : IsOutermost result place) :
    ∃ active value, Reaches root place active value ∧
      expandIn root active value = .ok expanded ∧ IsSettled active value := by
  induction place using List.reverseRecOn generalizing expanded with
  | nil =>
      cases there
      exact Reaches.start.exists_settled (expand_eq root ▸ success)
  | append_singleton place position ih =>
      rw [Value.inner?_concat] at there
      obtain ⟨copy, above, child⟩ := Option.bind_eq_some_iff.mp there
      obtain ⟨active, value, reached, computed, settled⟩ := ih above outermost.of_concat
      cases standing : ofValue? value with
      | some reference =>
          cases value with
          | map entries =>
              rw [expandIn_of_active standing (settled _ standing)] at computed
              cases computed
              exact absurd (hasReference_of_ofEntries? standing) (outermost.not_hasReference above)
          | _ => cases standing
      | none =>
          obtain ⟨inner, original, here⟩ := exists_original_child standing computed child
          exact (reached.enter standing original).exists_settled here

end ApiForge.Reference

import ApiForge.Proofs.Reference.Expansion

/-!
# Copies

A value that stands for no reference is copied with its children expanded. What
can be read of such a value without reading its children can be read of the
copy, and what reads one child reads its expansion in the copy.
-/

namespace ApiForge

/-- What is related to something that is there is there. -/
theorem exists_of_rel_some {α β : Type} {related : α → β → Prop} {first : Option α}
    {second : Option β} (rel : Option.Rel related first second) {value : α}
    (found : first = some value) : ∃ other, second = some other ∧ related value other := by
  subst found
  cases rel with
  | some here => exact ⟨_, rfl, here⟩

theorem eq_none_of_rel {α β : Type} {related : α → β → Prop} {first : Option α}
    {second : Option β} (rel : Option.Rel related first second) (absent : first = none) :
    second = none := by
  subst absent
  cases rel
  rfl

namespace Entries

/-- The entries have the same keys in the same order, and related values. -/
def AreCopies (related : Value → Value → Prop) (entries copies : Entries) : Prop :=
  List.Forall₂ (fun entry copy => entry.1 = copy.1 ∧ related entry.2 copy.2) entries copies

variable {related : Value → Value → Prop} {entries copies : Entries}

theorem areCopies_of_keys (keys : entries.map (·.1) = copies.map (·.1))
    (values : List.Forall₂ related (entries.map (·.2)) (copies.map (·.2))) :
    AreCopies related entries copies := by
  induction entries generalizing copies with
  | nil =>
      cases copies with
      | nil => exact .nil
      | cons copy others => cases keys
  | cons entry rest ih =>
      cases copies with
      | nil => cases keys
      | cons copy others =>
          obtain ⟨key, keys⟩ := List.cons.inj keys
          obtain ⟨value, values⟩ := List.forall₂_cons.mp values
          exact .cons ⟨key, value⟩ (ih keys values)

theorem AreCopies.find? (alike : AreCopies related entries copies) (key : Scalar) :
    Option.Rel related (Entries.find? key entries) (Entries.find? key copies) := by
  induction alike with
  | nil => exact .none
  | @cons entry copy rest others here _ ih =>
      have same : entry.1.isSameKey key = copy.1.isSameKey key := by rw [here.1]
      unfold Entries.find? at ih ⊢
      rw [List.find?_cons, List.find?_cons, same]
      cases copy.1.isSameKey key with
      | true => exact .some here.2
      | false => exact ih

theorem AreCopies.field? (alike : AreCopies related entries copies) (name : Text) :
    Option.Rel related (Entries.field? name entries) (Entries.field? name copies) :=
  alike.find? (.str name)

theorem AreCopies.keys (alike : AreCopies related entries copies) :
    entries.map (·.1) = copies.map (·.1) := by
  induction alike with
  | nil => rfl
  | cons here _ ih => rw [List.map_cons, List.map_cons, here.1, ih]

theorem AreCopies.contains (alike : AreCopies related entries copies) (key : Scalar) :
    Entries.contains key entries = Entries.contains key copies := by
  have same := congrArg (List.any · (·.isSameKey key)) alike.keys
  rwa [List.any_map, List.any_map] at same

end Entries

namespace Value

/-- A value of the same shape, with related children; what has no children is the same. -/
inductive IsCopy (related : Value → Value → Prop) : Value → Value → Prop
  | scalar (value : Scalar) : IsCopy related (.scalar value) (.scalar value)
  | list {items copies : List Value} (inside : List.Forall₂ related items copies) :
      IsCopy related (.list items) (.list copies)
  | map {entries copies : Entries} (inside : entries.AreCopies related copies) :
      IsCopy related (.map entries) (.map copies)
  | set (members : List Scalar) : IsCopy related (.set members) (.set members)
  | pair (first second : Value) : IsCopy related (.pair first second) (.pair first second)

variable {related : Value → Value → Prop} {value copy : Value}

theorem IsCopy.mono {other : Value → Value → Prop} (alike : IsCopy related value copy)
    (implied : ∀ inner copied, related inner copied → other inner copied) :
    IsCopy other value copy := by
  cases alike with
  | scalar value => exact .scalar value
  | list inside => exact .list (inside.imp implied)
  | map inside => exact .map (inside.imp fun _ _ here => ⟨here.1, implied _ _ here.2⟩)
  | set members => exact .set members
  | pair first second => exact .pair first second

theorem IsCopy.holds (alike : IsCopy related value copy) : value.holds = copy.holds := by
  cases alike with
  | list inside => cases inside <;> rfl
  | map inside => cases inside <;> rfl
  | _ => rfl

theorem IsCopy.text? (alike : IsCopy related value copy) : value.text? = copy.text? := by
  cases alike <;> rfl

theorem IsCopy.isText (alike : IsCopy related value copy) (text : Text) :
    value.isText text = copy.isText text := by
  rw [Value.isText, Value.isText, alike.text?]

theorem IsCopy.entries? (alike : IsCopy related value copy) :
    Option.Rel (Entries.AreCopies related) value.entries? copy.entries? := by
  cases alike with
  | map inside => exact .some inside
  | _ => exact .none

theorem IsCopy.field? (alike : IsCopy related value copy) (name : Text) :
    Option.Rel related (value.field? name) (copy.field? name) := by
  cases alike with
  | map inside => exact inside.field? name
  | _ => exact .none

end Value

namespace Reference

variable {root : Value} {active : List Text}

/-! ## Copies made by the expansion -/

/-- The expansion comes to the value and makes the other one of it, while the references `active`
are in progress. -/
structure IsExpandedIn (root : Value) (active : List Text) (value expanded : Value) : Prop where
  reached : ∃ place, Reaches root place active value
  computed : expandIn root active value = .ok expanded

theorem IsExpandedIn.start {result : Value} (success : expand root = .ok result) :
    IsExpandedIn root [] root result :=
  ⟨⟨[], .start⟩, expand_eq root ▸ success⟩

/-- A value that stands for no reference is copied, with its children expanded. -/
theorem IsExpandedIn.copy {value expanded : Value} (known : IsExpandedIn root active value expanded)
    (plain : ofValue? value = none) :
    Value.IsCopy (IsExpandedIn root active) value expanded := by
  obtain ⟨⟨place, reached⟩, computed⟩ := known
  have child {position : Nat} {inner copy : Value} (there : value.child? position = some inner)
      (here : expandIn root active inner = .ok copy) : IsExpandedIn root active inner copy :=
    ⟨⟨place ++ [position], reached.enter plain there⟩, here⟩
  simp only [expandIn, expandFrom_eq] at computed child
  cases value with
  | map entries =>
      have none : ofEntries? entries = none := plain
      simp only [mapReferences, none] at computed
      obtain ⟨copies, traversed, rfl⟩ := Success.of_map computed
      obtain ⟨keys, values⟩ := of_mapEntries traversed
      refine .map (Entries.areCopies_of_keys keys
        (Success.forall₂_of_mem values fun inner member copy here => ?_))
      obtain ⟨entry, inEntries, rfl⟩ := List.mem_map.mp member
      obtain ⟨position, there⟩ := Value.exists_child?_of_mem_entries inEntries
      exact child there here
  | list items =>
      simp only [mapReferences] at computed
      obtain ⟨copies, traversed, rfl⟩ := Success.of_map computed
      refine .list (Success.forall₂_of_mem (of_mapItems traversed) fun item member copy here => ?_)
      obtain ⟨position, there⟩ := List.mem_iff_getElem?.mp member
      exact child there here
  | scalar value =>
      cases computed
      exact .scalar value
  | set members =>
      cases computed
      exact .set members
  | pair first second =>
      cases computed
      exact .pair first second

end Reference

end ApiForge
